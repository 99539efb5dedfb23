import Mathlib.Data.List.Induction
import Mathlib.Data.List.Nodup
import TagGrammar.Collection.OrderedMap
import TagGrammar.Collection.TagSet
import TagGrammar.Collection.TagTable
import TagGrammar.Registry.Inheritance

/-!
# Lookups

What is found in a map or a table, said without the order in which its entries were written.

* `find?_fst_eq_some_iff` — where no key occurs twice, a lookup finds exactly the entries.
* `lookup_foldl_insert` — writing pairs one after another keeps the last value of a key.
* `OrderedMap.keys_ofList` — and it keeps the place where the key first came.
* `TagTable.get?_ofList_eq_some_iff` — writing pairs with distinct tags loses none of them.
* `Registry.nodup_accessors` — no accessor has two children on one type.
-/

namespace TagGrammar

universe u v w

/-- Where no key occurs twice, a lookup finds exactly the entries. -/
theorem find?_fst_eq_some_iff {α : Type u} {β : Type v} [DecidableEq α] {l : List (α × β)} {k : α}
    {b : β} (h : (l.map Prod.fst).Nodup) :
    (l.find? fun e => decide (e.1 = k)).map Prod.snd = some b ↔ (k, b) ∈ l := by
  induction l with
  | nil => simp
  | cons e rest ih =>
    obtain ⟨a, c⟩ := e
    rw [List.map_cons, List.nodup_cons] at h
    obtain ⟨ha, hrest⟩ := h
    by_cases hk : a = k
    · subst hk
      have hb : (a, b) ∉ rest := fun hm => ha (List.mem_map.2 ⟨_, hm, rfl⟩)
      simp [hb, eq_comm]
    · have hk' : k ≠ a := fun h => hk h.symm
      simp [hk, hk', ih hrest]

/-- Leaving out entries, and changing the values of the others, leaves keys in their order. -/
theorem sublist_map_fst_filterMap {α : Type u} {β γ : Type v} {f : α × β → Option (α × γ)}
    (h : ∀ e x, f e = some x → x.1 = e.1) (l : List (α × β)) :
    ((l.filterMap f).map Prod.fst).Sublist (l.map Prod.fst) := by
  induction l with
  | nil => exact List.Sublist.refl _
  | cons e rest ih =>
    rw [List.filterMap_cons]
    cases he : f e with
    | none => exact ih.cons _
    | some x =>
      rw [List.map_cons, List.map_cons, h e x he]
      exact ih.cons_cons _

/-- Writing pairs one after another, into whatever kind of map: of several values for a key the last
one stays. -/
theorem lookup_foldl_insert {M : Type w} {α : Type u} {β : Type v} [DecidableEq α]
    (get : M → α → Option β) (insert : M → α → β → M) (start : M)
    (hstart : ∀ k, get start k = none)
    (hinsert : ∀ m a b k, get (insert m a b) k = if a = k then some b else get m k)
    (l : List (α × β)) (k : α) :
    get (l.foldl (fun m e => insert m e.1 e.2) start) k =
      (l.reverse.find? fun e => decide (e.1 = k)).map Prod.snd := by
  -- the last write decides, so the induction takes pairs off the end
  induction l using List.reverseRecOn with
  | nil =>
    rw [List.foldl_nil, hstart]
    rfl
  | append_singleton l e ih =>
    rw [List.foldl_append, List.foldl_cons, List.foldl_nil, hinsert, ih, List.reverse_concat,
      List.find?_cons]
    by_cases h : e.1 = k <;> simp [h]

/-! ## Ordered maps -/

namespace OrderedMap

variable {α : Type u} {β : Type v} [DecidableEq α]

theorem get?_eq_some_iff {m : OrderedMap α β} {k : α} {b : β} :
    m.get? k = some b ↔ (k, b) ∈ m.entries :=
  find?_fst_eq_some_iff m.nodup_keys

theorem mem_keys_iff {m : OrderedMap α β} {k : α} : k ∈ m.keys ↔ ∃ b, m.get? k = some b := by
  simp [keys, get?_eq_some_iff]

theorem ofList_concat (l : List (α × β)) (e : α × β) :
    ofList (l ++ [e]) = (ofList l).insert e.1 e.2 := by
  unfold ofList
  rw [List.foldl_append]
  rfl

theorem get?_ofList (l : List (α × β)) (k : α) :
    (ofList l).get? k = (l.reverse.find? fun e => decide (e.1 = k)).map Prod.snd :=
  lookup_foldl_insert get? insert empty get?_empty (fun m a b k => m.get?_insert a k b) l k

/-- A key stays where it first came. -/
theorem keys_ofList (l : List (α × β)) : (ofList l).keys = (l.map Prod.fst).eraseDups := by
  induction l using List.reverseRecOn with
  | nil => rfl
  | append_singleton l e ih =>
    rw [ofList_concat, keys_insert, ih, List.map_append, List.eraseDups_append]
    by_cases h : e.1 ∈ l.map Prod.fst
    · simp [h, List.removeAll]
    · simp [h, List.removeAll, List.eraseDups_cons]

/-- A new key comes behind all others. -/
theorem put_of_not_mem {l : List (α × β)} {k : α} (h : k ∉ l.map Prod.fst) (b : β) :
    put k b l = l ++ [(k, b)] := by
  induction l with
  | nil => rfl
  | cons e rest ih =>
    rw [List.map_cons, List.mem_cons, not_or] at h
    rw [put, if_neg (Ne.symm h.1), ih h.2, List.cons_append]

/-- Where no key occurs twice, writing the pairs loses none of them. -/
theorem entries_ofList {l : List (α × β)} (h : (l.map Prod.fst).Nodup) :
    (ofList l).entries = l := by
  induction l using List.reverseRecOn with
  | nil => rfl
  | append_singleton l e ih =>
    rw [List.map_append, List.nodup_append] at h
    obtain ⟨hl, _, hnew⟩ := h
    have he : e.1 ∉ l.map Prod.fst := fun hmem => hnew _ hmem _ (List.mem_singleton.2 rfl) rfl
    rw [ofList_concat]
    show put e.1 e.2 (ofList l).entries = _
    rw [ih hl, put_of_not_mem he]

theorem ofList_entries (m : OrderedMap α β) : ofList m.entries = m := by
  have hentries : (ofList m.entries).entries = m.entries := entries_ofList m.nodup_keys
  cases h : ofList m.entries
  cases m
  simp_all

/-- A map is known by its keys, in order, and by what is found for them. -/
theorem ext_get? {m n : OrderedMap α β} (hkeys : m.keys = n.keys)
    (hget : ∀ k, m.get? k = n.get? k) : m = n := by
  have hentries : m.entries = n.entries := by
    apply List.ext_getElem
    · simpa [keys] using congrArg List.length hkeys
    · intro i hi hi'
      have hfst : m.entries[i].1 = n.entries[i].1 := by
        have h := List.getElem_of_eq hkeys (i := i) (by simpa [keys] using hi)
        simpa [keys] using h
      have hm : m.get? m.entries[i].1 = some m.entries[i].2 :=
        get?_eq_some_iff.2 (List.getElem_mem hi)
      have hn : n.get? n.entries[i].1 = some n.entries[i].2 :=
        get?_eq_some_iff.2 (List.getElem_mem hi')
      rw [hget, hfst, hn] at hm
      exact Prod.ext hfst (Option.some.inj hm).symm
  cases m
  cases n
  simp_all

end OrderedMap

/-! ## Tables sorted by tag -/

namespace TagTable

variable {β : Type v}

theorem nodup_tags (m : TagTable β) : (m.entries.map Prod.fst).Nodup := by
  have h : (m.entries.map Prod.fst).Pairwise (· < ·) := List.pairwise_map.2 m.ascending
  apply h.imp
  intro a b hlt heq
  subst heq
  exact String.lt_irrefl a hlt

theorem get?_eq_some_iff {m : TagTable β} {t : String} {b : β} :
    m.get? t = some b ↔ (t, b) ∈ m.entries :=
  find?_fst_eq_some_iff m.nodup_tags

theorem mem_tags_iff {m : TagTable β} {t : String} : t ∈ m.tags ↔ ∃ b, m.get? t = some b := by
  simp [tags, get?_eq_some_iff]

theorem get?_ofList (l : List (String × β)) (t : String) :
    (ofList l).get? t = (l.reverse.find? fun e => decide (e.1 = t)).map Prod.snd :=
  lookup_foldl_insert get? insert empty (fun _ => rfl) (fun m a b k => m.get?_insert a k b) l t

theorem get?_ofList_eq_some_iff {l : List (String × β)} {t : String} {b : β}
    (h : (l.map Prod.fst).Nodup) : (ofList l).get? t = some b ↔ (t, b) ∈ l := by
  have hr : (l.reverse.map Prod.fst).Nodup := by
    rw [List.map_reverse]
    exact List.nodup_reverse.2 h
  rw [get?_ofList, find?_fst_eq_some_iff hr, List.mem_reverse]

/-- Tables with the same tags list them in the same order. -/
theorem tags_eq_of_mem_iff {m n : TagTable β} (h : ∀ t, t ∈ m.tags ↔ t ∈ n.tags) :
    m.tags = n.tags :=
  TagSet.eq_of_mem_iff (List.pairwise_map.2 m.ascending) (List.pairwise_map.2 n.ascending) h

/-- A table is known by what is found in it. -/
theorem ext_get? {m n : TagTable β} (h : ∀ t, m.get? t = n.get? t) : m = n := by
  have hperm : m.entries.Perm n.entries := by
    rw [List.perm_ext_iff_of_nodup m.nodup_tags.of_map n.nodup_tags.of_map]
    rintro ⟨t, b⟩
    rw [← get?_eq_some_iff, ← get?_eq_some_iff, h]
  have hentries : m.entries = n.entries := by
    refine hperm.eq_of_pairwise (fun x y _ _ hxy hyx => ?_) m.ascending n.ascending
    exact absurd hyx (String.lt_asymm hxy)
  cases m
  cases n
  simp_all

end TagTable

/-! ## Accessors -/

namespace Registry

theorem accessor_of_mem_entries_merge {α : Type u} {accessor : α → String} {l : List α}
    {e : String × α} (h : e ∈ (OrderedMap.ofList (l.map fun d => (accessor d, d))).entries) :
    accessor e.2 = e.1 := by
  obtain ⟨d, _, rfl⟩ := List.mem_map.1 (OrderedMap.mem_of_mem_entries_ofList h)
  rfl

/-- Merged declarations have their accessors for keys. -/
theorem map_accessor_merge_eq_keys {α : Type u} (accessor : α → String) (l : List α) :
    (merge accessor l).map accessor =
      (OrderedMap.ofList (l.map fun d => (accessor d, d))).keys := by
  unfold merge OrderedMap.keys
  rw [List.map_map]
  exact List.map_congr_left fun e he => accessor_of_mem_entries_merge he

/-- The accessors of merged declarations stand where they first came. -/
theorem map_accessor_merge {α : Type u} (accessor : α → String) (l : List α) :
    (merge accessor l).map accessor = (l.map accessor).eraseDups := by
  rw [map_accessor_merge_eq_keys, OrderedMap.keys_ofList, List.map_map]
  rfl

theorem nodup_merge {α : Type u} (accessor : α → String) (l : List α) :
    ((merge accessor l).map accessor).Nodup := by
  rw [map_accessor_merge_eq_keys]
  exact (OrderedMap.ofList (l.map fun d => (accessor d, d))).nodup_keys

/-- No accessor has two children on one type. -/
theorem nodup_accessors (r : Registry) (type : TypeName) :
    ((r.children type).map (·.accessor)).Nodup := nodup_merge _ _

/-- A child is known by its accessor. -/
theorem eq_of_accessor_eq {r : Registry} {type : TypeName} {c d : ChildBinding}
    (hc : c ∈ r.children type) (hd : d ∈ r.children type) (h : c.accessor = d.accessor) : c = d :=
  List.inj_on_of_nodup_map (r.nodup_accessors type) hc hd h

end Registry

end TagGrammar
