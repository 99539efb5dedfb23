import Mathlib.Data.List.Induction
import TagGrammar.Proofs.Ancestry

/-!
# Which subtypes are reported

A registry answers from its supertypes, which are followed upwards from every registered type. So it
reports all types below the one it is asked for, whatever cycles there are, in the order of their
registration (`Registry.subtypes_are_descendants`).

A table of pairs that were written down does not follow anything. It reports the types that stand in
a pair with the one it is asked for, and a type further below only if that pair was written down as
well (`SubtypeTable.subtypes_are_written_down`). Asked again for what it has reported, it comes to
all types below in the end.
-/

namespace TagGrammar

open Relation (ReflTransGen TransGen)

/-! ## Subtypes in a registry -/

namespace Registry

variable {r : Registry} {type ancestor : TypeName} {seen : List TypeName}

theorem not_mem_of_mem_ascend (h : ancestor ∈ r.ascend seen type) : ancestor ∉ seen := by
  fun_induction ascend r seen type with
  | case1 => simp at h
  | case2 => simp at h
  | case3 seen type parent hstep hs ih =>
    rcases List.mem_cons.1 h with rfl | h
    · exact hs
    · exact fun hmem => ih h (List.mem_cons_of_mem _ hmem)

theorem nodup_ascend (r : Registry) (seen : List TypeName) (type : TypeName) :
    (r.ascend seen type).Nodup := by
  fun_induction ascend r seen type with
  | case1 => exact List.nodup_nil
  | case2 => exact List.nodup_nil
  | case3 seen type parent hstep hs ih =>
    exact List.nodup_cons.2 ⟨fun hmem => not_mem_of_mem_ascend hmem List.mem_cons_self, ih⟩

/-- Following supertypes takes at most as many steps as there are bindings. -/
theorem length_supertypes_le (r : Registry) (type : TypeName) :
    (r.supertypes type).length ≤ r.size := by
  have hsubset : r.supertypes type ⊆ r.parents := by
    intro ancestor hmem
    obtain ⟨t, _, hstep⟩ := TransGen.tail'_iff.1 (mem_supertypes_iff.1 hmem)
    exact mem_parents_of_supertype? hstep
  calc (r.supertypes type).length
      ≤ r.parents.length := (nodup_ascend r [] type).length_le_of_subset hsubset
    _ ≤ r.size := List.length_filterMap_le _ _

/-- The subtypes of a type stand in the order of their registration, each once, and they are the
registered types, other than the type itself, from which one or more supertypes lead to it. So a
subtype of a subtype is a subtype. Supertypes are followed only so far as they are new, at most as
often as there are bindings. -/
theorem subtypes_are_descendants (r : Registry) (type : TypeName) :
    ((SubtypeSource.ofRegistry r).subtypes type).Sublist r.knownTypes ∧
      ((SubtypeSource.ofRegistry r).subtypes type).Nodup ∧
      (∀ sub, sub ∈ (SubtypeSource.ofRegistry r).subtypes type ↔
        sub ∈ r.knownTypes ∧ sub ≠ type ∧ TransGen r.HasSupertype sub type) ∧
      type ∉ (SubtypeSource.ofRegistry r).subtypes type ∧
      (∀ sub ∈ (SubtypeSource.ofRegistry r).subtypes type,
        ∀ below ∈ (SubtypeSource.ofRegistry r).subtypes sub, below ≠ type →
          below ∈ (SubtypeSource.ofRegistry r).subtypes type) ∧
      ∀ t, (r.supertypes t).Nodup ∧ (r.supertypes t).length ≤ r.size := by
  simp only [SubtypeSource.ofRegistry_subtypes]
  have hsublist : (r.subtypes type).Sublist r.knownTypes := List.filter_sublist
  refine ⟨hsublist, r.nodup_names.sublist hsublist, fun sub => mem_subtypes_iff, ?_, ?_, ?_⟩
  · intro hmem
    obtain ⟨_, hne, _⟩ := mem_subtypes_iff.1 hmem
    exact hne rfl
  · intro sub hsub below hbelow hne
    obtain ⟨_, _, hup⟩ := mem_subtypes_iff.1 hsub
    obtain ⟨hknown, _, hup'⟩ := mem_subtypes_iff.1 hbelow
    exact mem_subtypes_iff.2 ⟨hknown, hne, hup'.trans hup⟩
  · intro t
    exact ⟨nodup_ascend r [] t, length_supertypes_le r t⟩

end Registry

/-! ### Shifts

Nights are shifts, and shifts and breaks are kinds of each other. -/

namespace Shifts

theorem subtypes_of_break :
    (SubtypeSource.ofRegistry registry).subtypes pause = [night, shift] ∧
      night ∈ (SubtypeSource.ofRegistry registry).subtypes shift ∧
      TransGen registry.HasSupertype night pause ∧
      pause ∉ (SubtypeSource.ofRegistry registry).subtypes pause := by
  have hsubtypes : (SubtypeSource.ofRegistry registry).subtypes pause = [night, shift] := by
    decide +kernel
  have hshift : shift ∈ (SubtypeSource.ofRegistry registry).subtypes pause := by
    rw [hsubtypes]
    decide
  have hnight : night ∈ (SubtypeSource.ofRegistry registry).subtypes shift := by decide +kernel
  obtain ⟨_, _, hiff, hself, htrans, _⟩ := Registry.subtypes_are_descendants registry pause
  have hbelow := htrans shift hshift night hnight (by decide)
  exact ⟨hsubtypes, hnight, ((hiff night).1 hbelow).2.2, hself⟩

end Shifts

/-! ## Subtypes written down -/

namespace SubtypeTable

variable {table : SubtypeTable} {pairs : List (TypeName × TypeName)}
  {type parent child sub : TypeName}

theorem subtypes_eq_members (table : SubtypeTable) (type : TypeName) :
    table.subtypes type = ((table.get? type).getD .empty).members := by
  unfold subtypes
  cases table.get? type <;> rfl

/-- A pair adds the child to the subtypes of its parent, unless it is the parent itself. -/
theorem mem_subtypes_register :
    sub ∈ (table.register parent child).subtypes type ↔
      sub ∈ table.subtypes type ∨ sub ≠ type ∧ type = parent ∧ sub = child := by
  by_cases hself : parent = child
  · rw [register, if_pos hself]
    constructor
    · exact .inl
    · rintro (hmem | ⟨hne, rfl, rfl⟩)
      · exact hmem
      · exact absurd hself.symm hne
  · rw [register, if_neg hself, subtypes_eq_members, OrderedMap.get?_insert]
    by_cases htype : parent = type
    · subst htype
      rw [if_pos rfl, Option.getD_some, OrderedSet.mem_members_insert, ← subtypes_eq_members]
      constructor
      · rintro (hmem | rfl)
        · exact .inl hmem
        · exact .inr ⟨Ne.symm hself, rfl, rfl⟩
      · rintro (hmem | ⟨_, _, hsub⟩)
        · exact .inl hmem
        · exact .inr hsub
    · rw [if_neg htype, ← subtypes_eq_members]
      simp [Ne.symm htype]

theorem ofList_concat (pairs : List (TypeName × TypeName)) (p : TypeName × TypeName) :
    ofList (pairs ++ [p]) = (ofList pairs).register p.1 p.2 := by
  rw [ofList, List.foldl_append]
  rfl

theorem nodup_subtypes (table : SubtypeTable) (type : TypeName) : (table.subtypes type).Nodup := by
  rw [subtypes_eq_members]
  exact OrderedSet.nodup_members _

/-- The pair was written down. -/
def WrittenDown (pairs : List (TypeName × TypeName)) (parent child : TypeName) : Prop :=
  (parent, child) ∈ pairs

/-- The subtypes of a type are those that were written down with it. -/
theorem mem_subtypes_ofList :
    sub ∈ (ofList pairs).subtypes type ↔ sub ≠ type ∧ WrittenDown pairs type sub := by
  unfold WrittenDown
  induction pairs using List.reverseRecOn with
  | nil => simp [ofList, subtypes]
  | append_singleton pairs p ih =>
    rw [ofList_concat, mem_subtypes_register, ih, List.mem_append, List.mem_singleton,
      Prod.ext_iff, and_or_left]

/-! ### What the pairs lead to -/

/-- The list has every type that pairs lead to, one after another, from the parent to the child:
each once, and not the type itself. -/
structure ListsAllBelow (pairs : List (TypeName × TypeName)) (type : TypeName)
    (subtypes : List TypeName) : Prop where
  distinct : subtypes.Nodup
  not_self : type ∉ subtypes
  mem_iff : ∀ sub, sub ∈ subtypes ↔ sub ≠ type ∧ TransGen (WrittenDown pairs) type sub

/-- Where the children of the children were written down, too, nothing is further below. -/
theorem writtenDown_of_transGen
    (hclosed : ∀ child below, WrittenDown pairs type child → WrittenDown pairs child below →
      below ≠ type → WrittenDown pairs type below)
    (h : TransGen (WrittenDown pairs) type sub) : sub = type ∨ WrittenDown pairs type sub := by
  induction h with
  | single h => exact .inr h
  | @tail child below _ hstep ih =>
    by_cases hself : below = type
    · exact .inl hself
    · right
      rcases ih with rfl | hchild
      · exact hstep
      · exact hclosed child below hchild hstep hself

theorem listsAllBelow_iff :
    ListsAllBelow pairs type ((ofList pairs).subtypes type) ↔
      ∀ child below, WrittenDown pairs type child → WrittenDown pairs child below →
        below ≠ type → WrittenDown pairs type below := by
  constructor
  · intro h child below hchild hbelow hne
    have hmem : below ∈ (ofList pairs).subtypes type :=
      (h.mem_iff below).2 ⟨hne, .tail (.single hchild) hbelow⟩
    exact (mem_subtypes_ofList.1 hmem).2
  · intro hclosed
    refine ⟨nodup_subtypes _ type, fun hmem => (mem_subtypes_ofList.1 hmem).1 rfl, ?_⟩
    intro sub
    rw [mem_subtypes_ofList]
    constructor
    · rintro ⟨hne, h⟩
      exact ⟨hne, .single h⟩
    · rintro ⟨hne, h⟩
      exact ⟨hne, (writtenDown_of_transGen hclosed h).resolve_left hne⟩

/-- Whatever the pairs lead to is found by asking again for what was reported. -/
theorem reflTransGen_mem_subtypes_iff :
    ReflTransGen (fun parent child => child ∈ (ofList pairs).subtypes parent) type sub ↔
      ReflTransGen (WrittenDown pairs) type sub := by
  constructor
  · intro h
    induction h with
    | refl => exact .refl
    | tail _ hstep ih => exact ih.tail (mem_subtypes_ofList.1 hstep).2
  · intro h
    induction h with
    | refl => exact .refl
    | @tail parent child _ hstep ih =>
      by_cases hself : child = parent
      · exact hself ▸ ih
      · exact ih.tail (mem_subtypes_ofList.2 ⟨hself, hstep⟩)

/-- The subtypes that a table reports for a type are those that were written down with it, each
once, and never the type itself. Asked again for these, the table comes to everything that the pairs
lead to. It reports all of that at once exactly if a child of a child was always written down with
the type as well. -/
theorem subtypes_are_written_down (pairs : List (TypeName × TypeName)) (type : TypeName) :
    ((SubtypeSource.ofTable (ofList pairs)).subtypes type).Nodup ∧
      type ∉ (SubtypeSource.ofTable (ofList pairs)).subtypes type ∧
      (∀ sub, sub ∈ (SubtypeSource.ofTable (ofList pairs)).subtypes type ↔
        sub ≠ type ∧ WrittenDown pairs type sub) ∧
      (∀ sub, ReflTransGen
          (fun parent child => child ∈ (SubtypeSource.ofTable (ofList pairs)).subtypes parent)
          type sub ↔
        ReflTransGen (WrittenDown pairs) type sub) ∧
      (ListsAllBelow pairs type ((SubtypeSource.ofTable (ofList pairs)).subtypes type) ↔
        ∀ child below, WrittenDown pairs type child → WrittenDown pairs child below →
          below ≠ type → WrittenDown pairs type below) :=
  ⟨nodup_subtypes _ type, fun hmem => (mem_subtypes_ofList.1 hmem).1 rfl,
    fun _ => mem_subtypes_ofList, fun _ => reflTransGen_mem_subtypes_iff, listsAllBelow_iff⟩

end SubtypeTable

/-! ### Figures

Squares are polygons, and polygons are shapes. That squares are shapes has to be written down. -/

namespace Figures

open SubtypeTable (ListsAllBelow WrittenDown)

def shape : TypeName := ⟨"Shape"⟩
def polygon : TypeName := ⟨"Polygon"⟩
def square : TypeName := ⟨"Square"⟩

def pairs : List (TypeName × TypeName) := [(shape, polygon), (polygon, square)]

/-- With squares written down as shapes, and once more as their own kind. -/
def allPairs : List (TypeName × TypeName) := pairs ++ [(shape, square), (square, square)]

theorem listsAllBelow_shape :
    ListsAllBelow allPairs shape
      ((SubtypeSource.ofTable (.ofList allPairs)).subtypes shape) ∧
    (SubtypeSource.ofTable (.ofList allPairs)).subtypes shape = [polygon, square] := by
  obtain ⟨_, _, _, _, hiff⟩ := SubtypeTable.subtypes_are_written_down allPairs shape
  refine ⟨hiff.2 ?_, by decide⟩
  intro child below hchild hbelow hne
  unfold WrittenDown allPairs pairs at *
  simp only [List.cons_append, List.nil_append, List.mem_cons, List.not_mem_nil, or_false,
    Prod.mk.injEq] at *
  grind

/-- Without that pair squares are not reported as shapes. -/
theorem not_forall_listsAllBelow :
    ¬ ∀ (pairs : List (TypeName × TypeName)) (type : TypeName),
      ListsAllBelow pairs type ((SubtypeSource.ofTable (.ofList pairs)).subtypes type) := by
  intro h
  have hbelow : Relation.TransGen (WrittenDown pairs) shape square :=
    .tail (.single (b := polygon) (by simp [WrittenDown, pairs])) (by simp [WrittenDown, pairs])
  have hmem : square ∈ (SubtypeSource.ofTable (.ofList pairs)).subtypes shape :=
    ((h pairs shape).mem_iff square).2 ⟨by decide, hbelow⟩
  have hnone : square ∉ (SubtypeSource.ofTable (.ofList pairs)).subtypes shape := by decide
  exact hnone hmem

end Figures

end TagGrammar
