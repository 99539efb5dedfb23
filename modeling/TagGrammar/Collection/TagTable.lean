/-!
# Tables sorted by tag

A finite map from tags, with its entries in strictly ascending order of their tags by code point.

    get?_insert : (m.insert t v).get? x = if t = x then some v else m.get? x
-/

namespace TagGrammar

/-- A map from tags, sorted by tag. -/
structure TagTable (β : Type u) where
  entries : List (String × β)
  /-- Every tag is below those behind it. -/
  ascending : entries.Pairwise (fun x y => x.1 < y.1)
  deriving DecidableEq

namespace TagTable

variable {β : Type u}

/-- The entries after writing `v` to the tag `t`. -/
def put (t : String) (v : β) : List (String × β) → List (String × β)
  | [] => [(t, v)]
  | e :: rest =>
    if t < e.1 then (t, v) :: e :: rest
    else if t = e.1 then (t, v) :: rest
    else e :: put t v rest

theorem fst_mem_put {t x : String} {v : β} {l : List (String × β)} :
    x ∈ (put t v l).map Prod.fst ↔ x = t ∨ x ∈ l.map Prod.fst := by
  induction l with
  | nil => simp [put]
  | cons e rest ih =>
    unfold put
    split
    · simp
    · split
      · next h => simp [h]
      · simp only [List.map_cons, List.mem_cons, ih]
        exact or_left_comm

theorem ascending_put {t : String} {v : β} {l : List (String × β)}
    (h : l.Pairwise (fun x y => x.1 < y.1)) : (put t v l).Pairwise (fun x y => x.1 < y.1) := by
  induction l with
  | nil => simp [put]
  | cons e rest ih =>
    obtain ⟨he, hrest⟩ := List.pairwise_cons.1 h
    unfold put
    split
    · next hlt =>
      refine List.pairwise_cons.2 ⟨fun x hx => ?_, h⟩
      rcases List.mem_cons.1 hx with rfl | hx
      · exact hlt
      · exact String.lt_trans hlt (he x hx)
    · next hnlt =>
      split
      · next heq => exact List.pairwise_cons.2 ⟨fun x hx => heq ▸ he x hx, hrest⟩
      · next hne =>
        refine List.pairwise_cons.2 ⟨fun x hx => ?_, ih hrest⟩
        rcases fst_mem_put.1 (List.mem_map.2 ⟨x, hx, rfl⟩) with h | h
        · exact h ▸ (Std.lt_trichotomy e.1 t).resolve_right
            (not_or.2 ⟨fun e => hne e.symm, hnlt⟩)
        · obtain ⟨y, hy, hyx⟩ := List.mem_map.1 h
          exact hyx ▸ he y hy

def empty : TagTable β := ⟨[], .nil⟩

instance : Inhabited (TagTable β) := ⟨empty⟩

/-- The tags, in ascending order. -/
def tags (m : TagTable β) : List String := m.entries.map Prod.fst

def size (m : TagTable β) : Nat := m.entries.length

def get? (m : TagTable β) (t : String) : Option β :=
  (m.entries.find? fun e => decide (e.1 = t)).map Prod.snd

def insert (m : TagTable β) (t : String) (v : β) : TagTable β :=
  ⟨put t v m.entries, ascending_put m.ascending⟩

/-- The table that results from writing the pairs one after another. -/
def ofList (l : List (String × β)) : TagTable β :=
  l.foldl (fun m e => m.insert e.1 e.2) empty

theorem find?_put (t x : String) (v : β) (l : List (String × β)) :
    ((put t v l).find? fun e => decide (e.1 = x)) =
      if t = x then some (t, v) else l.find? fun e => decide (e.1 = x) := by
  induction l with
  | nil => by_cases hx : t = x <;> simp [put, hx]
  | cons e rest ih =>
    unfold put
    split
    · by_cases hx : t = x <;> simp [List.find?_cons, hx]
    · split
      · next heq => by_cases hx : t = x <;> simp [hx, ← heq]
      · next hne =>
        rw [List.find?_cons, List.find?_cons, ih]
        by_cases hx : t = x
        · have : e.1 ≠ x := fun h => hne (hx.trans h.symm)
          simp [hx, this]
        · simp [hx]

@[simp] theorem get?_insert (m : TagTable β) (t x : String) (v : β) :
    (m.insert t v).get? x = if t = x then some v else m.get? x := by
  simp only [get?, insert, find?_put]
  split <;> simp

end TagTable

end TagGrammar
