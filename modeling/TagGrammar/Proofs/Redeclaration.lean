import Mathlib.Data.List.Induction
import TagGrammar.Proofs.Lookup

/-!
# Declarations that replace others

Declarations are known by their accessors, and `merge` keeps one for each accessor: the last one, at
the place of the first.

    mem_merge_iff : d ∈ merge accessor l ↔ IsLast accessor l d
    pairwise_idxOf_merge : ((merge accessor l).map accessor).Pairwise fun a b =>
      (l.map accessor).idxOf a < (l.map accessor).idxOf b

Declarations that come later can be merged in one by one. Each replaces the one with its accessor in
its place, or comes behind all others (`redeclare`), so the accessors that were there stay in front:

    merge_append : merge accessor (l ++ own) = own.foldl (redeclare accessor) (merge accessor l)
    prefix_merge_append :
      (merge accessor l).map accessor <+: (merge accessor (l ++ own)).map accessor
-/

namespace TagGrammar

universe u v

/-! ## Places in a map -/

theorem OrderedMap.put_of_mem {α : Type u} {β : Type v} [DecidableEq α] {l : List (α × β)} {k : α}
    (hnodup : (l.map Prod.fst).Nodup) (h : k ∈ l.map Prod.fst) (b : β) :
    put k b l = l.map fun e => if e.1 = k then (k, b) else e := by
  induction l with
  | nil => simp at h
  | cons e rest ih =>
    rw [List.map_cons, List.nodup_cons] at hnodup
    obtain ⟨hnew, hrest⟩ := hnodup
    by_cases he : e.1 = k
    · -- the key does not come again, so the rest stays as it is
      have hsame : ∀ x ∈ rest, (if x.1 = k then (k, b) else x) = x := by
        intro x hx
        apply if_neg
        rintro rfl
        exact hnew (he ▸ List.mem_map_of_mem hx)
      rw [put, if_pos he, List.map_cons, if_pos he, List.map_congr_left hsame, List.map_id']
    · have hmem : k ∈ rest.map Prod.fst := (List.mem_cons.1 h).resolve_left (Ne.symm he)
      rw [put, if_neg he, List.map_cons, if_neg he, ih hrest hmem]

/-- What is kept of a list without its repetitions stands in the order in which it first came. -/
theorem pairwise_idxOf_eraseDups {α : Type u} [DecidableEq α] (l : List α) :
    l.eraseDups.Pairwise fun a b => l.idxOf a < l.idxOf b := by
  induction l using List.reverseRecOn with
  | nil => exact .nil
  | append_singleton l c ih =>
    -- what is in the list already keeps its place when something comes behind it
    have hplace : ∀ a ∈ l.eraseDups, (l ++ [c]).idxOf a = l.idxOf a := by
      intro a ha
      exact List.idxOf_append_of_mem (List.mem_eraseDups.1 ha)
    have hkept : l.eraseDups.Pairwise fun a b => (l ++ [c]).idxOf a < (l ++ [c]).idxOf b := by
      refine ih.imp_of_mem ?_
      intro a b ha hb hlt
      rwa [hplace a ha, hplace b hb]
    rw [List.eraseDups_append]
    by_cases hc : c ∈ l
    · simpa [hc, List.removeAll] using hkept
    · have hlast : [c].removeAll l = [c] := by simp [hc, List.removeAll]
      rw [hlast, List.pairwise_append]
      refine ⟨hkept, by simp [List.eraseDups_cons], ?_⟩
      intro a ha b hb
      have hb : b = c := by simpa [List.eraseDups_cons] using hb
      have ha' : a ∈ l := List.mem_eraseDups.1 ha
      rw [hplace a ha, hb, List.idxOf_append, if_neg hc]
      have hlt : l.idxOf a < l.length := List.idxOf_lt_length_iff.2 ha'
      omega

namespace Registry

variable {α : Type u} {accessor : α → String} {l own : List α} {d : α}

/-! ## The last declaration for an accessor -/

/-- The declaration stands in the list, and none with its accessor behind it. -/
def IsLast (accessor : α → String) (l : List α) (d : α) : Prop :=
  ∃ before after, l = before ++ d :: after ∧ accessor d ∉ after.map accessor

theorem isLast_iff_find? :
    IsLast accessor l d ↔ l.reverse.find? (fun e => decide (accessor e = accessor d)) = some d := by
  rw [List.find?_eq_some_iff_append]
  constructor
  · rintro ⟨before, after, rfl, hafter⟩
    refine ⟨by simp, after.reverse, before.reverse, by simp, ?_⟩
    intro e he
    have hne : accessor e ≠ accessor d := by
      intro heq
      exact hafter (heq ▸ List.mem_map_of_mem (List.mem_reverse.1 he))
    simp [hne]
  · rintro ⟨_, front, back, hl, hfront⟩
    refine ⟨back.reverse, front.reverse, ?_, ?_⟩
    · simpa using congrArg List.reverse hl
    · intro hmem
      obtain ⟨e, he, heq⟩ := List.mem_map.1 hmem
      simpa [heq] using hfront e (List.mem_reverse.1 he)

/-- Declarations that come later go first. -/
theorem isLast_append :
    IsLast accessor (l ++ own) d ↔
      IsLast accessor own d ∨ accessor d ∉ own.map accessor ∧ IsLast accessor l d := by
  have hnone : own.reverse.find? (fun e => decide (accessor e = accessor d)) = none ↔
      accessor d ∉ own.map accessor := by
    simp [List.find?_eq_none]
  rw [isLast_iff_find?, isLast_iff_find?, isLast_iff_find?, List.reverse_append, List.find?_append,
    Option.or_eq_some_iff, hnone]

theorem not_isLast_nil : ¬ IsLast accessor [] d := by
  rintro ⟨before, after, h, _⟩
  simp at h

/-- Merging keeps the last declaration for each accessor. -/
theorem mem_merge_iff : d ∈ merge accessor l ↔ IsLast accessor l d := by
  have hentry : d ∈ merge accessor l ↔
      (accessor d, d) ∈ (OrderedMap.ofList (l.map fun e => (accessor e, e))).entries := by
    unfold merge
    rw [List.mem_map]
    constructor
    · rintro ⟨e, he, rfl⟩
      rwa [accessor_of_mem_entries_merge he]
    · intro h
      exact ⟨_, h, rfl⟩
  rw [hentry, ← OrderedMap.get?_eq_some_iff, OrderedMap.get?_ofList, isLast_iff_find?,
    ← List.map_reverse, List.find?_map, Option.map_map]
  show Option.map id (l.reverse.find? fun e => decide (accessor e = accessor d)) = some d ↔ _
  rw [Option.map_id, id]

/-- Merging keeps the accessors in the order in which they were first declared. -/
theorem pairwise_idxOf_merge (accessor : α → String) (l : List α) :
    ((merge accessor l).map accessor).Pairwise fun a b =>
      (l.map accessor).idxOf a < (l.map accessor).idxOf b := by
  rw [map_accessor_merge]
  exact pairwise_idxOf_eraseDups _

/-! ## Merging in what comes later -/

/-- The declarations with one more, which replaces the one with its accessor in its place, or comes
behind all others if there is none. -/
def redeclare (accessor : α → String) (l : List α) (d : α) : List α :=
  if accessor d ∈ l.map accessor then l.map fun e => if accessor e = accessor d then d else e
  else l ++ [d]

theorem merge_concat (accessor : α → String) (l : List α) (d : α) :
    merge accessor (l ++ [d]) = redeclare accessor (merge accessor l) d := by
  have hput : merge accessor (l ++ [d]) = (OrderedMap.put (accessor d) d
      (OrderedMap.ofList (l.map fun e => (accessor e, e))).entries).map Prod.snd := by
    unfold merge
    rw [List.map_append, List.map_singleton, OrderedMap.ofList_concat]
    rfl
  rw [hput, redeclare, map_accessor_merge_eq_keys]
  split
  · next hmem =>
    rw [OrderedMap.put_of_mem (OrderedMap.nodup_keys _) hmem, merge, List.map_map, List.map_map]
    refine List.map_congr_left fun e he => ?_
    show (if e.1 = accessor d then (accessor d, d) else e).2 =
      if accessor e.2 = accessor d then d else e.2
    rw [accessor_of_mem_entries_merge he]
    split <;> rfl
  · next hnew =>
    rw [OrderedMap.put_of_not_mem hnew, List.map_append]
    rfl

theorem merge_append (accessor : α → String) (l own : List α) :
    merge accessor (l ++ own) = own.foldl (redeclare accessor) (merge accessor l) := by
  induction own using List.reverseRecOn with
  | nil => rw [List.append_nil, List.foldl_nil]
  | append_singleton own d ih =>
    rw [← List.append_assoc, merge_concat, ih, List.foldl_append, List.foldl_cons, List.foldl_nil]

theorem prefix_merge_append (accessor : α → String) (l own : List α) :
    (merge accessor l).map accessor <+: (merge accessor (l ++ own)).map accessor := by
  rw [map_accessor_merge, map_accessor_merge, List.map_append, List.eraseDups_append]
  exact List.prefix_append _ _

end Registry

end TagGrammar
