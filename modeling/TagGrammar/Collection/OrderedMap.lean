/-!
# Maps in order of insertion

A map that remembers the order in which its keys first came. Writing to a key that is there changes
its value and leaves its place:

    keys_insert : (m.insert k v).keys = if k ∈ m.keys then m.keys else m.keys ++ [k]
    get?_insert : (m.insert k v).get? a = if k = a then some v else m.get? a

The keys are distinct, and the type says so.
-/

namespace TagGrammar

/-- A map with its entries in the order in which their keys were first inserted. -/
structure OrderedMap (α : Type u) (β : Type v) where
  entries : List (α × β)
  /-- No key occurs twice. -/
  nodup_keys : (entries.map Prod.fst).Nodup
  deriving DecidableEq

namespace OrderedMap

variable {α : Type u} {β : Type v} [DecidableEq α]

/-- The entries after writing `v` to the key `k`: in place if `k` is there, else at the end. -/
def put (k : α) (v : β) : List (α × β) → List (α × β)
  | [] => [(k, v)]
  | (a, b) :: rest => if a = k then (k, v) :: rest else (a, b) :: put k v rest

theorem map_fst_put (k : α) (v : β) (l : List (α × β)) :
    (put k v l).map Prod.fst =
      if k ∈ l.map Prod.fst then l.map Prod.fst else l.map Prod.fst ++ [k] := by
  induction l with
  | nil => simp [put]
  | cons e rest ih =>
    obtain ⟨a, b⟩ := e
    by_cases h : a = k
    · simp [put, h]
    · have h' : k ≠ a := fun e => h e.symm
      simp only [put, h, if_false, List.map_cons, ih, List.mem_cons, h', false_or]
      split <;> simp

theorem nodup_put {k : α} {v : β} {l : List (α × β)} (h : (l.map Prod.fst).Nodup) :
    ((put k v l).map Prod.fst).Nodup := by
  rw [map_fst_put]
  split
  · exact h
  · next hk =>
    refine List.nodup_append.2 ⟨h, by simp, ?_⟩
    rintro a ha b hb rfl
    exact hk (List.mem_singleton.1 hb ▸ ha)

def empty : OrderedMap α β := ⟨[], List.nodup_nil⟩

instance : Inhabited (OrderedMap α β) := ⟨⟨[], List.nodup_nil⟩⟩

/-- The keys, in the order in which they first came. -/
def keys (m : OrderedMap α β) : List α := m.entries.map Prod.fst

def size (m : OrderedMap α β) : Nat := m.entries.length

def get? (m : OrderedMap α β) (k : α) : Option β :=
  (m.entries.find? fun e => decide (e.1 = k)).map Prod.snd

/-- Write `v` to the key `k`. -/
def insert (m : OrderedMap α β) (k : α) (v : β) : OrderedMap α β :=
  ⟨put k v m.entries, nodup_put m.nodup_keys⟩

/-- The map that results from writing the pairs one after another. -/
def ofList (l : List (α × β)) : OrderedMap α β :=
  l.foldl (fun m e => m.insert e.1 e.2) empty

theorem keys_insert (m : OrderedMap α β) (k : α) (v : β) :
    (m.insert k v).keys = if k ∈ m.keys then m.keys else m.keys ++ [k] :=
  map_fst_put k v m.entries

theorem find?_put (k a : α) (v : β) (l : List (α × β)) :
    (put k v l).find? (fun e => decide (e.1 = a)) =
      if k = a then some (k, v) else l.find? (fun e => decide (e.1 = a)) := by
  induction l with
  | nil => by_cases h : k = a <;> simp [put, h]
  | cons e rest ih =>
    obtain ⟨b, c⟩ := e
    by_cases hb : b = k
    · subst hb
      by_cases h : b = a <;> simp [put, h]
    · by_cases h : k = a
      · subst h
        simp [put, hb, ih]
      · simp only [put, hb, if_false, List.find?_cons, ih, h]

@[simp] theorem get?_insert (m : OrderedMap α β) (k a : α) (v : β) :
    (m.insert k v).get? a = if k = a then some v else m.get? a := by
  simp only [get?, insert, find?_put]
  split <;> simp

theorem get?_eq_none_iff {m : OrderedMap α β} {k : α} : m.get? k = none ↔ k ∉ m.keys := by
  unfold get? keys
  rw [Option.map_eq_none_iff, List.find?_eq_none, List.mem_map, not_exists]
  constructor
  · rintro h e ⟨he, rfl⟩
    exact h e he (by simp)
  · intro h e he
    simpa using fun hk => h e ⟨he, hk⟩

@[simp] theorem get?_empty (a : α) : (empty : OrderedMap α β).get? a = none := rfl

theorem mem_of_mem_put {k : α} {v : β} {l : List (α × β)} {e : α × β} (h : e ∈ put k v l) :
    e = (k, v) ∨ e ∈ l := by
  induction l with
  | nil => exact .inl (List.mem_singleton.1 h)
  | cons x rest ih =>
    unfold put at h
    split at h
    · exact (List.mem_cons.1 h).imp id (List.mem_cons_of_mem _)
    · rcases List.mem_cons.1 h with rfl | h
      · exact .inr List.mem_cons_self
      · exact (ih h).imp id (List.mem_cons_of_mem _)

theorem mem_of_mem_entries_ofList {l : List (α × β)} {e : α × β}
    (h : e ∈ (ofList l).entries) : e ∈ l := by
  suffices ∀ m : OrderedMap α β,
      e ∈ (l.foldl (fun m e => m.insert e.1 e.2) m).entries → e ∈ m.entries ∨ e ∈ l from
    (this empty h).resolve_left (by simp [empty])
  clear h
  intro m
  induction l generalizing m with
  | nil => exact .inl
  | cons x rest ih =>
    intro h
    rcases ih (m.insert x.1 x.2) h with h | h
    · rcases mem_of_mem_put (show e ∈ put x.1 x.2 m.entries from h) with rfl | h
      · exact .inr List.mem_cons_self
      · exact .inl h
    · exact .inr (List.mem_cons_of_mem _ h)

end OrderedMap

end TagGrammar
