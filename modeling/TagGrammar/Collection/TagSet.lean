/-!
# Sorted sets of tags

Tags in strictly ascending order by code point. So a set has one form, and the order in which its
members were added leaves no trace:

    mem_insert : x ∈ (s.insert t).tags ↔ x = t ∨ x ∈ s.tags
    ext_mem    : (∀ x, x ∈ s.tags ↔ x ∈ t.tags) → s = t
-/

namespace TagGrammar

/-- A set of tags, in ascending order. -/
structure TagSet where
  tags : List String
  /-- Every member is below those behind it. -/
  ascending : tags.Pairwise (· < ·)
  deriving DecidableEq

namespace TagSet

/-- A list of ascending tags with one more tag in its place. -/
def put (t : String) : List String → List String
  | [] => [t]
  | x :: rest => if t < x then t :: x :: rest else if t = x then x :: rest else x :: put t rest

theorem mem_put {t x : String} {l : List String} : x ∈ put t l ↔ x = t ∨ x ∈ l := by
  induction l with
  | nil => simp [put]
  | cons y rest ih =>
    unfold put
    split
    · simp
    · split
      · next h => subst h; simp
      · simp [ih, or_left_comm]

theorem ascending_put {t : String} {l : List String} (h : l.Pairwise (· < ·)) :
    (put t l).Pairwise (· < ·) := by
  induction l with
  | nil => simp [put]
  | cons y rest ih =>
    obtain ⟨hy, hrest⟩ := List.pairwise_cons.1 h
    unfold put
    split
    · next hlt =>
      refine List.pairwise_cons.2 ⟨fun x hx => ?_, h⟩
      rcases List.mem_cons.1 hx with rfl | hx
      · exact hlt
      · exact String.lt_trans hlt (hy x hx)
    · next hnlt =>
      split
      · exact h
      · next hne =>
        refine List.pairwise_cons.2 ⟨fun x hx => ?_, ih hrest⟩
        rcases mem_put.1 hx with rfl | hx
        · exact (Std.lt_trichotomy y x).resolve_right
            (not_or.2 ⟨fun e => hne e.symm, hnlt⟩)
        · exact hy x hx

def empty : TagSet := ⟨[], .nil⟩

instance : Inhabited TagSet := ⟨empty⟩

def insert (s : TagSet) (t : String) : TagSet := ⟨put t s.tags, ascending_put s.ascending⟩

def insertAll (s : TagSet) (l : List String) : TagSet := l.foldl insert s

def ofList (l : List String) : TagSet := empty.insertAll l

@[simp] theorem mem_insert {s : TagSet} {t x : String} :
    x ∈ (s.insert t).tags ↔ x = t ∨ x ∈ s.tags := mem_put

@[simp] theorem mem_insertAll {s : TagSet} {l : List String} {x : String} :
    x ∈ (s.insertAll l).tags ↔ x ∈ l ∨ x ∈ s.tags := by
  unfold insertAll
  induction l generalizing s with
  | nil => simp
  | cons t rest ih => simp [ih, or_assoc, or_left_comm]

/-- Ascending lists with the same members are equal. -/
theorem eq_of_mem_iff {l m : List String} (hl : l.Pairwise (· < ·)) (hm : m.Pairwise (· < ·))
    (h : ∀ x, x ∈ l ↔ x ∈ m) : l = m := by
  induction l generalizing m with
  | nil =>
    cases m with
    | nil => rfl
    | cons b m => exact absurd ((h b).2 List.mem_cons_self) (by simp)
  | cons a l ih =>
    cases m with
    | nil => exact absurd ((h a).1 List.mem_cons_self) (by simp)
    | cons b m =>
      obtain ⟨ha, hl'⟩ := List.pairwise_cons.1 hl
      obtain ⟨hb, hm'⟩ := List.pairwise_cons.1 hm
      have hab : a = b := by
        rcases List.mem_cons.1 ((h a).1 List.mem_cons_self) with rfl | h1
        · rfl
        · rcases List.mem_cons.1 ((h b).2 List.mem_cons_self) with rfl | h2
          · rfl
          · exact absurd (hb a h1) (String.lt_asymm (ha b h2))
      subst hab
      congr 1
      refine ih hl' hm' fun x => ⟨fun hx => ?_, fun hx => ?_⟩
      · refine (List.mem_cons.1 ((h x).1 (List.mem_cons_of_mem _ hx))).resolve_left ?_
        rintro rfl
        exact String.lt_irrefl _ (ha _ hx)
      · refine (List.mem_cons.1 ((h x).2 (List.mem_cons_of_mem _ hx))).resolve_left ?_
        rintro rfl
        exact String.lt_irrefl _ (hb _ hx)

theorem ext_mem {s t : TagSet} (h : ∀ x, x ∈ s.tags ↔ x ∈ t.tags) : s = t := by
  have := eq_of_mem_iff s.ascending t.ascending h
  cases s
  cases t
  simp_all

end TagSet

end TagGrammar
