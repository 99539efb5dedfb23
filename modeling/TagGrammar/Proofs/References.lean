import TagGrammar.Proofs.Registration

/-!
# Which references are checked

Element types stand in the types of attributes and children, behind any number of lists. Validation
looks behind one list and no further. So it finds every unknown supertype and every unknown element
type that stands behind one list at most, and a registry in which no element type stands deeper is
valid exactly if all references are known (`Registry.validate_iff_known`). What stands behind two
lists or more may be unknown in a valid registry (`Grids.not_forall_validate_iff_allKnown`).
-/

namespace TagGrammar

/-! ## References -/

/-- An element type within a type, and the number of lists before it. -/
inductive ValueType.Holds : ValueType → Nat → TypeName → Prop where
  | element (target : TypeName) : Holds (.element target) 0 target
  | list {item : ValueType} {depth : Nat} {target : TypeName} (h : Holds item depth target) :
      Holds (.list item) (depth + 1) target

namespace ValueType

variable {type : ValueType} {target : TypeName}

theorem holds_zero_iff : type.Holds 0 target ↔ type = .element target := by
  constructor
  · intro h
    cases h
    rfl
  · rintro rfl
    exact .element target

/-- The type that is found behind one list is the element type there, if it is one. -/
theorem elementType?_eq_some_iff_holds :
    type.elementType? = some target ↔ ∃ depth ≤ 1, type.Holds depth target := by
  constructor
  · intro h
    unfold elementType? at h
    split at h
    · next found hitem =>
      cases h
      unfold item? at hitem
      split at hitem
      · next item =>
        cases hitem
        exact ⟨1, Nat.le_refl 1, .list (.element target)⟩
      · cases hitem
      · cases hitem
        exact ⟨0, Nat.zero_le 1, .element target⟩
    · cases h
  · rintro ⟨depth, hdepth, h⟩
    cases h with
    | element => rfl
    | list h =>
      have hzero := Nat.le_zero.1 (Nat.le_of_succ_le_succ hdepth)
      rw [hzero, holds_zero_iff] at h
      rw [h]
      rfl

end ValueType

/-- A binding refers to a type: to its supertype, or to an element type in the type of an attribute
or a child, behind so many lists. -/
inductive TypeBinding.RefersTo (b : TypeBinding) : Nat → TypeName → Prop where
  | ofSupertype {target : TypeName} (h : b.supertype = some target) : b.RefersTo 0 target
  | ofAttribute {a : AttributeBinding} {depth : Nat} {target : TypeName} (ha : a ∈ b.attributes)
      (h : a.valueType.Holds depth target) : b.RefersTo depth target
  | ofChild {c : ChildBinding} {depth : Nat} {target : TypeName} (hc : c ∈ b.children)
      (h : c.valueType.Holds depth target) : b.RefersTo depth target

/-- What is looked at in the attributes of a binding, or in its children, are the element types
behind at most one list. -/
theorem exists_mem_filterMap_elementType?_iff {α : Type} {accessor : α → String}
    {type : α → ValueType} {declared : List α} {target : TypeName} :
    (∃ key, (key, target) ∈ declared.filterMap fun a =>
      (type a).elementType?.map fun t => (some (accessor a), t)) ↔
      ∃ a ∈ declared, ∃ depth ≤ 1, (type a).Holds depth target := by
  simp only [← ValueType.elementType?_eq_some_iff_holds, List.mem_filterMap,
    Option.map_eq_some_iff, Prod.mk.injEq]
  constructor
  · rintro ⟨_, a, ha, _, helement, _, rfl⟩
    exact ⟨a, ha, helement⟩
  · rintro ⟨a, ha, helement⟩
    exact ⟨_, a, ha, target, helement, rfl, rfl⟩

/-- The references that are looked at are those behind at most one list. -/
theorem TypeBinding.exists_mem_references_iff {b : TypeBinding} {target : TypeName} :
    (∃ accessor, (accessor, target) ∈ b.references) ↔ ∃ depth ≤ 1, b.RefersTo depth target := by
  simp only [references, List.mem_append, exists_or, exists_mem_filterMap_elementType?_iff]
  constructor
  · rintro ((⟨_, h⟩ | ⟨a, ha, depth, hdepth, h⟩) | ⟨c, hc, depth, hdepth, h⟩)
    · obtain ⟨parent, hparent, heq⟩ := List.mem_map.1 h
      cases heq
      exact ⟨0, Nat.zero_le 1, .ofSupertype (Option.mem_toList.1 hparent)⟩
    · exact ⟨depth, hdepth, .ofAttribute ha h⟩
    · exact ⟨depth, hdepth, .ofChild hc h⟩
  · rintro ⟨depth, hdepth, h⟩
    cases h with
    | ofSupertype h => exact .inl (.inl ⟨none, by simp [h]⟩)
    | ofAttribute ha h => exact .inl (.inr ⟨_, ha, depth, hdepth, h⟩)
    | ofChild hc h => exact .inr ⟨_, hc, depth, hdepth, h⟩

/-! ## Validation -/

namespace Registry

variable {r : Registry}

/-- All types are registered to which there are references behind so many lists. -/
def KnownAt (r : Registry) (depth : Nat) : Prop :=
  ∀ b ∈ r.bindings, ∀ target, b.RefersTo depth target → target ∈ r.knownTypes

/-- All types are registered to which there are references. -/
def AllKnown (r : Registry) : Prop := ∀ depth, r.KnownAt depth

theorem validate_eq_ok_iff_knownAt : r.validate = .ok () ↔ ∀ depth ≤ 1, r.KnownAt depth := by
  rw [validate_eq_ok_iff]
  constructor
  · intro h depth hdepth b hb target htarget
    obtain ⟨accessor, href⟩ := TypeBinding.exists_mem_references_iff.2 ⟨depth, hdepth, htarget⟩
    exact h b hb _ href
  · rintro h b hb ⟨accessor, target⟩ href
    obtain ⟨depth, hdepth, htarget⟩ := TypeBinding.exists_mem_references_iff.1 ⟨accessor, href⟩
    exact h depth hdepth b hb target htarget

/-- A registry is refused for a reference to a type that is not registered, and the error tells the
type and where the reference is. -/
theorem exists_reference_of_validate_eq_error {e : Error} (h : r.validate = .error e) :
    ∃ b ∈ r.bindings, ∃ ref ∈ b.references, ref.2 ∉ r.knownTypes ∧
      e = .binding ⟨.unknownType ref.2.name, some b.name.name, ref.1⟩ := by
  unfold validate at h
  split at h
  · cases h
  · next b accessor target hfound =>
    cases h
    obtain ⟨c, hc, href⟩ := List.exists_of_findSome?_eq_some hfound
    obtain ⟨ref, hunknown, heq⟩ := Option.map_eq_some_iff.1 href
    cases heq
    have hmissing : r.contains target = false := by
      simpa using List.find?_some hunknown
    refine ⟨b, hc, _, List.mem_of_find?_eq_some hunknown, ?_, rfl⟩
    simpa [contains] using hmissing

/-- Validation accepts a registry exactly if all types are registered to which there are references
behind at most one list. So all references are known exactly if the registry is valid and those
behind two lists or more are known; in particular validity is the same as knowing all references
where there are none so deep. A registry that is not valid has an unknown reference, which the error
tells. -/
theorem validate_iff_known (r : Registry) :
    (r.validate = .ok () ↔ ∀ depth ≤ 1, r.KnownAt depth) ∧
      (r.AllKnown ↔ r.validate = .ok () ∧ ∀ depth ≥ 2, r.KnownAt depth) ∧
      ((∀ b ∈ r.bindings, ∀ depth ≥ 2, ∀ target, ¬ b.RefersTo depth target) →
        (r.validate = .ok () ↔ r.AllKnown)) ∧
      ∀ e, r.validate = .error e →
        ∃ b ∈ r.bindings, ∃ ref ∈ b.references, ref.2 ∉ r.knownTypes ∧
          e = .binding ⟨.unknownType ref.2.name, some b.name.name, ref.1⟩ := by
  have hall : r.AllKnown ↔ r.validate = .ok () ∧ ∀ depth ≥ 2, r.KnownAt depth := by
    rw [validate_eq_ok_iff_knownAt]
    constructor
    · intro h
      exact ⟨fun depth _ => h depth, fun depth _ => h depth⟩
    · rintro ⟨hshallow, hdeep⟩ depth
      rcases Nat.lt_or_ge depth 2 with hdepth | hdepth
      · exact hshallow depth (Nat.le_of_lt_succ hdepth)
      · exact hdeep depth hdepth
  refine ⟨validate_eq_ok_iff_knownAt, hall, ?_, fun e => exists_reference_of_validate_eq_error⟩
  intro hnone
  rw [hall]
  constructor
  · intro hvalid
    refine ⟨hvalid, ?_⟩
    intro depth hdepth b hb target htarget
    exact absurd htarget (hnone b hb depth hdepth target)
  · exact And.left

end Registry

/-! ## Grids

A grid has rows, which are lists of cells. Nothing says what a cell is. -/

namespace Grids

def grid : TypeName := ⟨"Grid"⟩
def cell : TypeName := ⟨"Cell"⟩

/-- The binding of grids, whose rows have this type. -/
def gridOf (rows : ValueType) : TypeBinding :=
  ⟨grid, none, none, [], [⟨"getRows", .reference, rows⟩]⟩

/-- A grid which is a list of cells. -/
def flat : Registry := .ofCalls [gridOf (.list (.element cell))]

/-- A grid which is a list of lists of cells. -/
def deep : Registry := .ofCalls [gridOf (.list (.list (.element cell)))]

theorem bindings_flat : flat.bindings = [gridOf (.list (.element cell))] := by decide

theorem bindings_deep : deep.bindings = [gridOf (.list (.list (.element cell)))] := by decide

/-- A grid refers to what its rows hold, and to nothing else. -/
theorem refersTo_gridOf_iff {rows : ValueType} {depth : Nat} {target : TypeName} :
    (gridOf rows).RefersTo depth target ↔ rows.Holds depth target := by
  constructor
  · intro h
    cases h with
    | ofSupertype h => cases h
    | ofAttribute ha => cases ha
    | ofChild hc h =>
      cases List.mem_singleton.1 hc
      exact h
  · intro h
    exact .ofChild (List.mem_singleton.2 rfl) h

theorem validate_flat_iff_known :
    (∀ b ∈ flat.bindings, ∀ depth ≥ 2, ∀ target, ¬ b.RefersTo depth target) ∧
      flat.validate = .error (.binding ⟨.unknownType "Cell", some "Grid", some "getRows"⟩) ∧
      ¬ flat.AllKnown ∧
      ∃ b ∈ flat.bindings, ∃ ref ∈ b.references, ref.2 ∉ flat.knownTypes := by
  have hnone : ∀ b ∈ flat.bindings, ∀ depth ≥ 2, ∀ target, ¬ b.RefersTo depth target := by
    intro b hb depth hdepth target htarget
    rw [bindings_flat, List.mem_singleton] at hb
    rw [hb, refersTo_gridOf_iff] at htarget
    cases htarget with
    | list h =>
      cases h
      exact absurd hdepth (by decide)
  have hrefused : flat.validate =
      .error (.binding ⟨.unknownType "Cell", some "Grid", some "getRows"⟩) := by decide
  obtain ⟨_, _, hiff, herror⟩ := flat.validate_iff_known
  obtain ⟨b, hb, ref, href, hunknown, _⟩ := herror _ hrefused
  refine ⟨hnone, hrefused, ?_, b, hb, ref, href, hunknown⟩
  intro hall
  rw [(hiff hnone).2 hall] at hrefused
  cases hrefused

/-- A registry may be valid although it does not know a type that is referred to. -/
theorem not_forall_validate_iff_allKnown : ¬ ∀ calls : List TypeBinding,
    (Registry.ofCalls calls).validate = .ok () ↔ (Registry.ofCalls calls).AllKnown := by
  intro h
  have hvalid : deep.validate = .ok () := by decide
  have hcell : (gridOf (.list (.list (.element cell)))).RefersTo 2 cell :=
    refersTo_gridOf_iff.2 (.list (.list (.element cell)))
  have hknown : cell ∈ deep.knownTypes := by
    apply (h _).1 hvalid 2 _ _ _ hcell
    rw [← deep, bindings_deep]
    exact List.mem_singleton.2 rfl
  exact absurd hknown (by decide)

end Grids

end TagGrammar
