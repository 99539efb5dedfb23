import Mathlib.Data.List.Infix
import TagGrammar.Name

/-!
# The simple name of a type

The name of a type may be a path, with dots or double colons between its parts. Its simple name is
what comes behind the last separator of either kind, and that is the shortest suffix that comes
behind any (`isShortestAfterSeparator_of_hasSeparator`).

What stands before a separator does not matter:

    simpleNameChars_append_dot    : simpleNameChars (p ++ '.' :: t) = simpleNameChars t
    simpleNameChars_append_colons : t.head? ≠ some ':' →
      simpleNameChars (p ++ ':' :: ':' :: t) = simpleNameChars t

The two kinds differ only for a `t` that starts with a colon, because there the second colon of the
separator is the first colon of another one. The cut can also be made in two steps, first at the
last double colon and then at the last dot (`simpleNameChars_eq_behindLast`).
-/

namespace TagGrammar.Name

variable {s t u : List Char}

/-- There is a dot in the text, or a double colon. -/
def HasSeparator (s : List Char) : Prop := ['.'] <:+: s ∨ [':', ':'] <:+: s

instance (s : List Char) : Decidable (HasSeparator s) := inferInstanceAs (Decidable (_ ∨ _))

/-- The shortest suffix of `s` that comes directly behind a separator is `t`. -/
def IsShortestAfterSeparator (t s : List Char) : Prop :=
  IsSuffixAfterSeparator t s ∧ ∀ u, IsSuffixAfterSeparator u s → t.length ≤ u.length

/-! ## Suffixes behind a separator -/

theorem hasSeparator_iff : HasSeparator s ↔ ∃ t, IsSuffixAfterSeparator t s := by
  constructor
  · rintro (⟨p, t, h⟩ | ⟨p, t, h⟩)
    · exact ⟨t, p, .inl (by simp [← h])⟩
    · exact ⟨t, p, .inr (by simp [← h])⟩
  · rintro ⟨t, p, h | h⟩
    · exact .inl ⟨p, t, by simp [h]⟩
    · exact .inr ⟨p, t, by simp [h]⟩

theorem IsSuffixAfterSeparator.length_lt (h : IsSuffixAfterSeparator t s) :
    t.length < s.length := by
  obtain ⟨p, rfl | rfl⟩ := h <;> simp <;> omega

theorem IsSuffixAfterSeparator.append (h : IsSuffixAfterSeparator t s) (p : List Char) :
    IsSuffixAfterSeparator t (p ++ s) := by
  obtain ⟨q, rfl | rfl⟩ := h
  · exact ⟨p ++ q, .inl (by simp)⟩
  · exact ⟨p ++ q, .inr (by simp)⟩

theorem IsSuffixAfterSeparator.trans (h : IsSuffixAfterSeparator t s)
    (hu : IsSuffixAfterSeparator u t) : IsSuffixAfterSeparator u s := by
  obtain ⟨p, rfl | rfl⟩ := h
  · simpa using hu.append (p ++ ['.'])
  · simpa using hu.append (p ++ [':', ':'])

/-! ## Where the cut is made -/

theorem afterSeparator?_cons (c : Char) (cs : List Char) :
    afterSeparator? (c :: cs) = (afterSeparator? cs).or
      (if c = '.' then some cs
        else if c = ':' ∧ cs.head? = some ':' then some cs.tail else none) := by
  rw [afterSeparator?.eq_def]
  dsimp only
  cases afterSeparator? cs with
  | some tail => rfl
  | none =>
    rw [Option.none_or]
    cases cs <;> grind

theorem afterSeparator?_append (p : List Char) (h : afterSeparator? s = some t) :
    afterSeparator? (p ++ s) = some t := by
  induction p with
  | nil => exact h
  | cons c p ih => rw [List.cons_append, afterSeparator?_cons, ih, Option.some_or]

theorem afterSeparator?_dot (t : List Char) :
    afterSeparator? ('.' :: t) = some (simpleNameChars t) := by
  rw [afterSeparator?_cons, if_pos rfl, Option.or_some]
  rfl

/-- A separator behind the first of two colons is taken rather than the two. -/
theorem afterSeparator?_colons (t : List Char) :
    afterSeparator? (':' :: ':' :: t) = some ((afterSeparator? (':' :: t)).getD t) := by
  rw [afterSeparator?_cons, if_neg (by decide), if_pos ⟨rfl, rfl⟩, Option.or_some]
  rfl

theorem afterSeparator?_colon (h : t.head? ≠ some ':') :
    afterSeparator? (':' :: t) = afterSeparator? t := by
  rw [afterSeparator?_cons, if_neg (by decide), if_neg (fun hc => h hc.2), Option.or_none]

theorem simpleNameChars_append_dot (p t : List Char) :
    simpleNameChars (p ++ '.' :: t) = simpleNameChars t := by
  rw [simpleNameChars, afterSeparator?_append p (afterSeparator?_dot t)]
  rfl

theorem simpleNameChars_append_colons (p : List Char) (h : t.head? ≠ some ':') :
    simpleNameChars (p ++ ':' :: ':' :: t) = simpleNameChars t := by
  rw [simpleNameChars, afterSeparator?_append p (afterSeparator?_colons t), afterSeparator?_colon h]
  rfl

/-! ## The shortest suffix -/

theorem length_getD_afterSeparator?_le (h : s.length ≤ t.length + 1) :
    ((afterSeparator? s).getD t).length ≤ t.length := by
  cases hs : afterSeparator? s with
  | none => rfl
  | some u =>
    have hlt : u.length < s.length := (isSuffixAfterSeparator_of_afterSeparator? hs).length_lt
    rw [Option.getD_some]
    omega

theorem exists_afterSeparator?_of_isSuffix (h : IsSuffixAfterSeparator t s) :
    ∃ u, afterSeparator? s = some u ∧ u.length ≤ t.length := by
  obtain ⟨p, rfl | rfl⟩ := h
  · exact ⟨_, afterSeparator?_append p (afterSeparator?_dot t),
      length_getD_afterSeparator?_le (Nat.le_succ _)⟩
  · exact ⟨_, afterSeparator?_append p (afterSeparator?_colons t),
      length_getD_afterSeparator?_le Nat.le.refl⟩

theorem afterSeparator?_eq_none_iff : afterSeparator? s = none ↔ ¬ HasSeparator s := by
  rw [hasSeparator_iff]
  constructor
  · rintro h ⟨t, ht⟩
    obtain ⟨u, hu, _⟩ := exists_afterSeparator?_of_isSuffix ht
    simp [hu] at h
  · intro h
    rw [Option.eq_none_iff_forall_ne_some]
    intro u hu
    exact h ⟨u, isSuffixAfterSeparator_of_afterSeparator? hu⟩

theorem isShortestAfterSeparator_of_afterSeparator? (h : afterSeparator? s = some t) :
    IsShortestAfterSeparator t s := by
  refine ⟨isSuffixAfterSeparator_of_afterSeparator? h, ?_⟩
  intro u hu
  obtain ⟨v, hv, hle⟩ := exists_afterSeparator?_of_isSuffix hu
  rw [h] at hv
  cases hv
  exact hle

/-- A separator in the shortest suffix would be followed by a shorter one. -/
theorem IsShortestAfterSeparator.not_hasSeparator (h : IsShortestAfterSeparator t s) :
    ¬ HasSeparator t := by
  rw [hasSeparator_iff]
  rintro ⟨u, hu⟩
  have hle : t.length ≤ u.length := h.2 u (h.1.trans hu)
  exact absurd hu.length_lt (Nat.not_lt.2 hle)

theorem simpleNameChars_of_not_hasSeparator (h : ¬ HasSeparator s) : simpleNameChars s = s := by
  rw [simpleNameChars, afterSeparator?_eq_none_iff.2 h]
  rfl

theorem isShortestAfterSeparator_of_hasSeparator (h : HasSeparator s) :
    IsShortestAfterSeparator (simpleNameChars s) s := by
  cases hs : afterSeparator? s with
  | none => exact absurd h (afterSeparator?_eq_none_iff.1 hs)
  | some t =>
    rw [simpleNameChars, hs]
    exact isShortestAfterSeparator_of_afterSeparator? hs

theorem not_hasSeparator_simpleNameChars (s : List Char) : ¬ HasSeparator (simpleNameChars s) := by
  by_cases h : HasSeparator s
  · exact (isShortestAfterSeparator_of_hasSeparator h).not_hasSeparator
  · rwa [simpleNameChars_of_not_hasSeparator h]

theorem simpleNameChars_eq_self_iff : simpleNameChars s = s ↔ ¬ HasSeparator s :=
  ⟨fun h => h ▸ not_hasSeparator_simpleNameChars s, simpleNameChars_of_not_hasSeparator⟩

/-! ## What comes behind a path -/

theorem simpleNameChars_append_dot_eq_iff (p t : List Char) :
    simpleNameChars (p ++ '.' :: t) = t ↔ ¬ HasSeparator t := by
  rw [simpleNameChars_append_dot, simpleNameChars_eq_self_iff]

theorem simpleNameChars_append_colons_eq_iff (p t : List Char) :
    simpleNameChars (p ++ ':' :: ':' :: t) = t ↔ ¬ HasSeparator t ∧ t.head? ≠ some ':' := by
  by_cases hcolon : t.head? = some ':'
  · obtain ⟨r, rfl⟩ := List.head?_eq_some_iff.1 hcolon
    -- What follows the second and the third colon is shorter than what follows the first two.
    have hr : IsSuffixAfterSeparator r (p ++ ':' :: ':' :: ':' :: r) :=
      ⟨p ++ [':'], .inr (by simp)⟩
    have hle := (isShortestAfterSeparator_of_hasSeparator (hasSeparator_iff.2 ⟨r, hr⟩)).2 r hr
    constructor
    · intro h
      rw [h] at hle
      exact absurd hle (Nat.not_succ_le_self _)
    · rintro ⟨_, h⟩
      exact absurd hcolon h
  · rw [simpleNameChars_append_colons p hcolon, simpleNameChars_eq_self_iff]
    exact (and_iff_left hcolon).symm

/-! ## One cut after the other -/

/-- What comes behind the last occurrence of `sep`, if there is one. -/
def behindLast? (sep : List Char) : List Char → Option (List Char)
  | [] => none
  | c :: cs =>
    (behindLast? sep cs).or
      (if sep.isPrefixOf (c :: cs) then some ((c :: cs).drop sep.length) else none)

/-- What comes behind the last occurrence of `sep`, and the whole text if there is none. -/
def behindLast (sep s : List Char) : List Char := (behindLast? sep s).getD s

theorem behindLast?_eq_none_iff {c : Char} {sep : List Char} :
    behindLast? (c :: sep) s = none ↔ ¬ (c :: sep) <:+: s := by
  induction s with
  | nil => simp [behindLast?]
  | cons d s ih =>
    rw [behindLast?, Option.or_eq_none_iff, ih, List.infix_cons_iff,
      ← List.isPrefixOf_iff_prefix]
    simp [and_comm]

/-- Nowhere behind the first character of that occurrence does another one start. -/
theorem exists_of_behindLast? {c : Char} {sep : List Char}
    (h : behindLast? (c :: sep) s = some t) :
    ∃ p, s = p ++ c :: (sep ++ t) ∧ ¬ (c :: sep) <:+: sep ++ t := by
  induction s with
  | nil => simp [behindLast?] at h
  | cons d s ih =>
    rw [behindLast?] at h
    cases hs : behindLast? (c :: sep) s with
    | some u =>
      rw [hs] at h
      obtain ⟨p, rfl, hlast⟩ := ih (hs.trans h)
      exact ⟨d :: p, rfl, hlast⟩
    | none =>
      rw [hs, Option.none_or] at h
      obtain ⟨hstarts, ht⟩ := Option.ite_none_right_eq_some.1 h
      obtain ⟨rfl, r, rfl⟩ := List.cons_prefix_cons.1 (List.isPrefixOf_iff_prefix.1 hstarts)
      obtain rfl : r = t := by simpa using ht
      exact ⟨[], rfl, behindLast?_eq_none_iff.1 hs⟩

theorem behindLast_colons (s : List Char) :
    ¬ [':', ':'] <:+: behindLast [':', ':'] s ∧
      simpleNameChars (behindLast [':', ':'] s) = simpleNameChars s := by
  unfold behindLast
  cases hs : behindLast? [':', ':'] s with
  | none => exact ⟨behindLast?_eq_none_iff.1 hs, rfl⟩
  | some t =>
    obtain ⟨p, rfl, hlast⟩ := exists_of_behindLast? hs
    have hcolon : t.head? ≠ some ':' := by
      intro h
      apply hlast
      cases t <;> simp_all [List.infix_cons_iff, List.cons_prefix_cons]
    constructor
    · exact fun h => hlast (List.infix_cons h)
    · exact (simpleNameChars_append_colons p hcolon).symm

theorem behindLast_dot (h : ¬ [':', ':'] <:+: s) : behindLast ['.'] s = simpleNameChars s := by
  unfold behindLast
  cases hs : behindLast? ['.'] s with
  | none =>
    have hnone : ¬ HasSeparator s := not_or.2 ⟨behindLast?_eq_none_iff.1 hs, h⟩
    exact (simpleNameChars_of_not_hasSeparator hnone).symm
  | some t =>
    obtain ⟨p, rfl, hlast⟩ := exists_of_behindLast? hs
    have hnone : ¬ HasSeparator t :=
      not_or.2 ⟨hlast, fun ht => h (ht.trans ⟨p ++ ['.'], [], by simp⟩)⟩
    exact ((simpleNameChars_append_dot_eq_iff p t).2 hnone).symm

/-- The last double colon is found first, and then the last dot behind it. -/
theorem simpleNameChars_eq_behindLast (s : List Char) :
    simpleNameChars s = behindLast ['.'] (behindLast [':', ':'] s) := by
  obtain ⟨hcolons, hsame⟩ := behindLast_colons s
  rw [behindLast_dot hcolons, hsame]

/-! ## Simple names -/

theorem toList_simpleName (s : String) : (simpleName s).toList = simpleNameChars s.toList :=
  String.toList_ofList

theorem simpleName_eq_iff {s t : String} :
    simpleName s = t ↔ simpleNameChars s.toList = t.toList := by
  rw [← toList_simpleName, String.toList_inj]

/-- The simple name of `s` is the shortest suffix that comes directly behind a separator, or `s` as
it stands if there is no separator in it. So the simple name has no separator and is its own simple
name. What follows a path and a dot is the simple name of the whole exactly if it has no separator;
what follows a path and two colons must not start with a colon either. The same name is found by one
cut behind the last double colon and another one behind the last dot of what is left. -/
theorem simpleName_cuts_behind_last_separator (s : String) :
    ((HasSeparator s.toList ∧ IsShortestAfterSeparator (simpleName s).toList s.toList) ∨
        (¬ HasSeparator s.toList ∧ simpleName s = s)) ∧
      ¬ HasSeparator (simpleName s).toList ∧ simpleName (simpleName s) = simpleName s ∧
      (∀ p t : String,
        (simpleName (p ++ "::" ++ t) = t ↔
          ¬ HasSeparator t.toList ∧ t.toList.head? ≠ some ':') ∧
        (simpleName (p ++ "." ++ t) = t ↔ ¬ HasSeparator t.toList)) ∧
      (simpleName s).toList = behindLast ['.'] (behindLast [':', ':'] s.toList) := by
  have hnone : ¬ HasSeparator (simpleName s).toList := by
    rw [toList_simpleName]
    exact not_hasSeparator_simpleNameChars s.toList
  refine ⟨?_, hnone, ?_, ?_, ?_⟩
  · by_cases h : HasSeparator s.toList
    · rw [toList_simpleName]
      exact .inl ⟨h, isShortestAfterSeparator_of_hasSeparator h⟩
    · exact .inr ⟨h, simpleName_eq_iff.2 (simpleNameChars_of_not_hasSeparator h)⟩
  · exact simpleName_eq_iff.2 (simpleNameChars_of_not_hasSeparator hnone)
  · intro p t
    have hcolons := simpleNameChars_append_colons_eq_iff p.toList t.toList
    have hdot := simpleNameChars_append_dot_eq_iff p.toList t.toList
    exact ⟨by simp [simpleName_eq_iff, ← hcolons], by simp [simpleName_eq_iff, ← hdot]⟩
  · rw [toList_simpleName, simpleNameChars_eq_behindLast]

/-- Of three colons in a row the last two are the separator. -/
example : simpleName "shop.stock:::Item" = "Item" ∧ simpleName "shop::stock.Item" = "Item" := by
  decide

end TagGrammar.Name
