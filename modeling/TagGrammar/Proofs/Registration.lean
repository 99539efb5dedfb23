import Mathlib.Data.List.Nodup
import TagGrammar.Registry

/-!
# How registries come about

A registry grows from the empty one by calls of `register`, some of which may be refused. A refused
call leaves it as it was, so whatever the accepted calls keep holds in the end
(`ofCalls_induction`). One such thing is that all names in a registry are XML Names
(`namesValid_ofCalls`).

Bindings that are registered one after another without a refusal are all there in the end, and in
their order (`registerAll_eq_ok_iff`). What is found for a type does not depend on this order
(`get?_eq_some_iff`).
-/

namespace TagGrammar.Registry

theorem attempt_of_ok {r r' : Registry} {b : TypeBinding} (h : r.register b = (.ok (), r')) :
    r.attempt b = r' := congrArg Prod.snd h

theorem attempt_of_error {r r' : Registry} {b : TypeBinding} {e : Error}
    (h : r.register b = (.error e, r')) : r.attempt b = r :=
  (congrArg Prod.snd h).trans (eq_of_register_eq_error h)

/-- What holds of the empty registry and is kept by every accepted call holds after all calls. -/
theorem ofCalls_induction {P : Registry → Prop} (hempty : P empty)
    (hregister : ∀ r b r', r.register b = (.ok (), r') → P r → P r') (calls : List TypeBinding) :
    P (ofCalls calls) := by
  suffices ∀ r, P r → P (calls.foldl attempt r) from this empty hempty
  induction calls with
  | nil => exact fun _ hr => hr
  | cons b rest ih =>
    intro r hr
    apply ih
    rcases h : r.register b with ⟨_ | _, r'⟩
    · rw [attempt_of_error h]
      exact hr
    · rw [attempt_of_ok h]
      exact hregister r b r' h hr

/-! ## Bindings in full -/

/-- The binding of a type is the one that has its name. -/
theorem get?_eq_some_iff {r : Registry} {type : TypeName} {b : TypeBinding} :
    r.get? type = some b ↔ b ∈ r.bindings ∧ b.name = type := by
  constructor
  · intro h
    exact ⟨List.mem_of_find?_eq_some h, by simpa using List.find?_some h⟩
  · rintro ⟨hmem, rfl⟩
    cases h : r.get? b.name with
    | none => exact absurd (List.find?_eq_none.1 h b hmem) (by simp)
    | some c =>
      have hname : c.name = b.name := by simpa using List.find?_some h
      rw [List.inj_on_of_nodup_map r.nodup_names (List.mem_of_find?_eq_some h) hmem hname]

theorem mem_knownTypes_iff {r : Registry} {type : TypeName} :
    type ∈ r.knownTypes ↔ ∃ b, r.get? type = some b := by
  simp only [get?_eq_some_iff]
  exact List.mem_map

/-- Bindings that are registered in full stand behind the earlier ones, in their order. All it takes
are valid names; that no type comes twice is a matter of the resulting registry. -/
theorem registerAll_eq_ok_iff {r r' : Registry} {bs : List TypeBinding} :
    r.registerAll bs = .ok r' ↔
      (∀ b ∈ bs, ∀ n ∈ b.publishedNames, Name.isValid n) ∧ r'.bindings = r.bindings ++ bs := by
  induction bs generalizing r with
  | nil =>
    unfold registerAll
    constructor
    · intro h
      cases h
      simp
    · rintro ⟨_, hbindings⟩
      rw [List.append_nil] at hbindings
      cases r
      cases r'
      cases hbindings
      rfl
  | cons b bs ih =>
    unfold registerAll
    constructor
    · intro h
      cases hb : r.registered b with
      | error e =>
        rw [hb] at h
        cases h
      | ok r₁ =>
        rw [hb] at h
        obtain ⟨hvalid, hrest⟩ := ih.1 h
        obtain ⟨_, hnames, hbindings⟩ := register_eq_ok_iff.1 (registered_eq_ok_iff.1 hb)
        rw [hbindings, List.append_assoc, List.singleton_append] at hrest
        exact ⟨List.forall_mem_cons.2 ⟨hnames, hvalid⟩, hrest⟩
    · rintro ⟨hvalid, hbindings⟩
      obtain ⟨hnames, hrest⟩ := List.forall_mem_cons.1 hvalid
      have hnodup := r'.nodup_names
      rw [hbindings, List.map_append, List.map_cons] at hnodup
      have hnew : b.name ∉ r.knownTypes := by
        intro hmem
        exact (List.nodup_append.1 hnodup).2.2 _ hmem _ List.mem_cons_self rfl
      have hb : r.registered b = .ok ⟨r.bindings ++ [b], nodup_names_append r.nodup_names hnew⟩ :=
        registered_eq_ok_iff.2 (register_eq_ok_iff.2 ⟨hnew, hnames, rfl⟩)
      rw [hb]
      apply ih.2
      exact ⟨hrest, by rw [hbindings, List.append_assoc, List.singleton_append]⟩

/-! ## Validation -/

/-- A registry is valid exactly if all types that its bindings refer to are registered. -/
theorem validate_eq_ok_iff {r : Registry} :
    r.validate = .ok () ↔ ∀ b ∈ r.bindings, ∀ ref ∈ b.references, ref.2 ∈ r.knownTypes := by
  have hnone : r.bindings.findSome? (fun b => (r.unknownReference? b).map fun ref => (b, ref)) =
      none ↔ ∀ b ∈ r.bindings, ∀ ref ∈ b.references, ref.2 ∈ r.knownTypes := by
    simp [List.findSome?_eq_none_iff, unknownReference?, contains]
  rw [← hnone]
  unfold validate
  split
  · next h => simp [h]
  · next h => simp [h]

/-! ## Names -/

/-- All names that the bindings publish are XML Names. -/
def NamesValid (r : Registry) : Prop := ∀ b ∈ r.bindings, ∀ n ∈ b.publishedNames, Name.isValid n

theorem NamesValid.register {r r' : Registry} {b : TypeBinding} (h : r.register b = (.ok (), r'))
    (hr : r.NamesValid) : r'.NamesValid := by
  obtain ⟨_, hb, hbindings⟩ := register_eq_ok_iff.1 h
  intro c hc
  rw [hbindings, List.mem_append, List.mem_singleton] at hc
  rcases hc with hc | rfl
  · exact hr c hc
  · exact hb

/-- Whatever is registered, and whatever is refused, the names in a registry are XML Names. -/
theorem namesValid_ofCalls (calls : List TypeBinding) : (ofCalls calls).NamesValid := by
  apply ofCalls_induction
  · intro b hb
    cases hb
  · intro r b r' h hr
    exact hr.register h

end TagGrammar.Registry
