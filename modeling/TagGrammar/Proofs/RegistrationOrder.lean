import TagGrammar.Proofs.Growth

/-!
# The order of registration

The order in which bindings are registered decides in which order subtypes are reported, hence in
which order a walk meets the types and what it finds half built. Of this nothing is left in the
hints but the winner of a contested tag: registries with the same bindings share them with each
other, so each document is kept in the other one (`Registry.hintsFor_perm`).
-/

namespace TagGrammar

namespace Registry

variable {r r' : Registry} {type : TypeName}

/-- What is found for a type does not depend on the order of the bindings. -/
theorem get?_eq_of_perm (hperm : r'.bindings.Perm r.bindings) : r'.get? type = r.get? type := by
  apply Option.ext
  intro b
  rw [get?_eq_some_iff, get?_eq_some_iff, hperm.mem_iff]

theorem sharesWith_of_perm (hperm : r'.bindings.Perm r.bindings) :
    r.SharesWith r' fun _ => True where
  get? _ := get?_eq_of_perm hperm
  known _ := trivial
  supertype _ _ := trivial
  child _ _ _ := trivial

theorem SoleTag.of_perm {name : String} (h : r.SoleTag type name)
    (hperm : r'.bindings.Perm r.bindings) : r'.SoleTag type name where
  tag := ((sharesWith_of_perm hperm).tag?_eq trivial).trans h.tag
  sole b hb := h.sole b (hperm.mem_iff.1 hb)
  unnamed b hb := h.unnamed b (hperm.mem_iff.1 hb)

/-- Bindings that can be registered in full can be so in any order. -/
theorem exists_registerAll_of_perm {bs bs' : List TypeBinding}
    (hr : empty.registerAll bs = .ok r) (hperm : bs'.Perm bs) :
    ∃ r', empty.registerAll bs' = .ok r' ∧ r'.bindings.Perm r.bindings := by
  obtain ⟨hvalid, hbindings⟩ := registerAll_eq_ok_iff.1 hr
  rw [empty, List.nil_append] at hbindings
  have hnodup : (bs'.map (·.name)).Nodup := by
    rw [(hperm.map _).nodup_iff, ← hbindings]
    exact r.nodup_names
  refine ⟨⟨bs', hnodup⟩, registerAll_eq_ok_iff.2 ⟨fun b hb => ?_, rfl⟩, ?_⟩
  · exact hvalid b (hperm.mem_iff.1 hb)
  · rw [hbindings]
    exact hperm

/-- Bindings in two orders: for every root there are hints over both registries or over none. The
documents have the same top elements and the same tags, and where a tag belongs to one type alone,
the same entry. -/
theorem hintsFor_perm {bs bs' : List TypeBinding} (hr : empty.registerAll bs = .ok r)
    (hperm : bs'.Perm bs) (factory : Option ValueFactory) (root : TypeName) :
    ∃ r', empty.registerAll bs' = .ok r' ∧
      ((Generator.ofRegistry r' factory).hintsFor root).isSome =
        ((Generator.ofRegistry r factory).hintsFor root).isSome ∧
      ∀ doc doc', (Generator.ofRegistry r factory).hintsFor root = some doc →
        (Generator.ofRegistry r' factory).hintsFor root = some doc' →
          doc'.topElements = doc.topElements ∧ doc'.registry.tags = doc.registry.tags ∧
            ∀ type name, r.SoleTag type name → name ∈ doc.registry.tags →
              ∃ e, doc.get? name = some e ∧ doc'.get? name = some e := by
  obtain ⟨r', hr', hbindings⟩ := exists_registerAll_of_perm hr hperm
  have hthere := sharesWith_of_perm hbindings
  have hback := sharesWith_of_perm hbindings.symm
  refine ⟨r', hr', hthere.isSome_hintsFor trivial, fun doc doc' hdoc hdoc' => ?_⟩
  have hkept := hthere.keptIn_of_hintsFor trivial hdoc hdoc'
  have hkept' := hback.keptIn_of_hintsFor trivial hdoc' hdoc
  have htags : doc'.registry.tags = doc.registry.tags :=
    TagTable.tags_eq_of_mem_iff fun name => ⟨hkept'.tags name, hkept.tags name⟩
  refine ⟨hkept.top, htags, fun type name hsole hname => ?_⟩
  obtain ⟨e, e', he, he', hgrown⟩ := hkept.entries type name (hsole.of_perm hbindings) hname
  obtain ⟨_, _, hf', hf, hshrunk⟩ := hkept'.entries type name hsole (htags.symm ▸ hname)
  rw [he'] at hf'
  rw [he] at hf
  cases hf'
  cases hf
  exact ⟨e, he, hgrown.antisymm hshrunk ▸ he'⟩

end Registry

/-! ## Drawings

A drawing is made of shapes, and so is a group, which is a shape itself. The frame of a drawing is a
square under a name of its own. -/

namespace Drawings

def drawing : TypeName := ⟨"Drawing"⟩
def shape : TypeName := ⟨"Shape"⟩
def square : TypeName := ⟨"Square"⟩
def group : TypeName := ⟨"Group"⟩

def bindings : List TypeBinding := [
  ⟨drawing, none, some ⟨none⟩, [⟨"getWidth", none, .scalar "float"⟩],
    [⟨"getShapes", .reference, .list (.element shape)⟩,
      ⟨"getFrame", .named "frame", .element square⟩]⟩,
  ⟨shape, none, none, [⟨"isVisible", none, .boolean⟩], []⟩,
  ⟨square, some shape, some ⟨none⟩, [⟨"getSize", none, .scalar "float"⟩], []⟩,
  ⟨group, some shape, some ⟨none⟩, [], [⟨"getShapes", .reference, .list (.element shape)⟩]⟩]

def registry : Registry := ⟨bindings, by decide⟩

theorem registerAll_bindings : Registry.empty.registerAll bindings = .ok registry :=
  Registry.registerAll_eq_ok_iff.2 ⟨by decide +kernel, rfl⟩

theorem soleTag_group : registry.SoleTag group "group" := by
  constructor <;> decide +kernel

theorem exists_hintsFor_drawing :
    ∃ doc, (Generator.ofRegistry registry none).hintsFor drawing = some doc ∧
      doc.registry.tags = ["drawing", "frame", "group", "square"] :=
  Option.map_eq_some_iff.1 (by decide +kernel)

theorem hintsFor_drawing_reverse : bindings.reverse.Perm bindings ∧
    ∃ r', Registry.empty.registerAll bindings.reverse = .ok r' ∧
      ∃ doc doc' e, (Generator.ofRegistry registry none).hintsFor drawing = some doc ∧
        (Generator.ofRegistry r' none).hintsFor drawing = some doc' ∧
          doc'.topElements = doc.topElements ∧ doc'.registry.tags = doc.registry.tags ∧
            doc.get? "group" = some e ∧ doc'.get? "group" = some e := by
  have hperm := List.reverse_perm bindings
  obtain ⟨r', hr', hsome, heq⟩ :=
    Registry.hintsFor_perm registerAll_bindings hperm none drawing
  obtain ⟨doc, hdoc, hkeys⟩ := exists_hintsFor_drawing
  rw [hdoc] at hsome
  obtain ⟨doc', hdoc'⟩ := Option.isSome_iff_exists.1 hsome
  obtain ⟨htop, htags, hentries⟩ := heq doc doc' hdoc hdoc'
  obtain ⟨e, he, he'⟩ := hentries group "group" soleTag_group (by simp [hkeys])
  exact ⟨hperm, r', hr', doc, doc', e, hdoc, hdoc', htop, htags, he, he'⟩

end Drawings

end TagGrammar
