import TagGrammar.Proofs.Document
import TagGrammar.Proofs.Walk.Lockstep

/-!
# What cannot be met has no influence

The hints for a root depend on nothing but the types that can be met from it. Two vocabularies that
agree on these types make the same walk, state by state, so they give the same hints, and which of
several types wins a tag is the same as well (`hintsFor_eq_of_agreesAt`). Whatever else is declared,
or reported as a subtype, leaves no trace.
-/

namespace TagGrammar

namespace Vocabulary

/-- Both vocabularies say the same of the type. -/
structure AgreesAt (v v' : Vocabulary) (type : TypeName) : Prop where
  tag? : v'.tag? type = v.tag? type
  attributes : v'.attributes type = v.attributes type
  children : v'.children type = v.children type
  subtypes : v'.subtypes type = v.subtypes type

variable {v v' : Vocabulary} {root : TypeName}

/-- The tags of subtypes are those of types that can be met, too. -/
theorem overrides_eq_of_agreesAt (h : ∀ t, v.Reaches root t → v.AgreesAt v' t) {type : TypeName}
    (hreached : v.Reaches root type) : v'.overrides type = v.overrides type := by
  unfold overrides
  rw [(h type hreached).subtypes]
  congr 1
  apply List.filterMap_congr
  intro sub hsub
  exact (h sub (hreached.subtype hsub)).tag?

theorem outline_eq_of_agreesAt (hfactory : v'.factory = v.factory)
    (h : ∀ t, v.Reaches root t → v.AgreesAt v' t) {type : TypeName}
    (hreached : v.Reaches root type) : v'.outline type = v.outline type := by
  have hattributes : v'.attributeTable type = v.attributeTable type := by
    unfold attributeTable attributeEntry
    rw [(h type hreached).attributes, hfactory]
  unfold outline
  rw [(h type hreached).tag?, hattributes, overrides_eq_of_agreesAt h hreached]

theorem lockstep_of_agreesAt (hfactory : v'.factory = v.factory)
    (h : ∀ t, v.Reaches root t → v.AgreesAt v' t) : Lockstep v v' root Eq where
  subtypes hreached := (h _ hreached).subtypes
  children hreached := (h _ hreached).children
  types hw := by rw [hw]
  size hw := by rw [hw]
  enter := by
    rintro w _ type rfl hreached
    unfold Walk.enter
    rw [outline_eq_of_agreesAt hfactory h hreached, (h type hreached).tag?,
      (h type hreached).attributes]
  note hw := by rw [hw]
  settle hw := by rw [hw]

theorem reaches_iff_of_agreesAt (h : ∀ t, v.Reaches root t → v.AgreesAt v' t) {type : TypeName} :
    v'.Reaches root type ↔ v.Reaches root type := by
  constructor
  · intro hr
    induction hr with
    | refl => exact .refl
    | subtype _ mem ih => exact ih.subtype ((h _ ih).subtypes ▸ mem)
    | child _ mem element ih => exact ih.child ((h _ ih).children ▸ mem) element
  · intro hr
    induction hr with
    | refl => exact .refl
    | subtype hr mem ih => exact ih.subtype ((h _ hr).subtypes ▸ mem)
    | child hr mem element ih => exact ih.child ((h _ hr).children ▸ mem) element

/-- Vocabularies that agree on the types that can be met from a root let the same types be met from
it, make the same walk, and have the same hints for it, or both none. There is a result as soon as
finitely many types can be met. -/
theorem hintsFor_eq_of_agreesAt {v v' : Vocabulary} {root : TypeName}
    (hfactory : v'.factory = v.factory) (h : ∀ t, v.Reaches root t → v.AgreesAt v' t) :
    (∀ t, v'.Reaches root t ↔ v.Reaches root t) ∧
      (∀ depth, v'.visit depth root .start = v.visit depth root .start) ∧
        (∀ depth, v'.hintsFor depth root = v.hintsFor depth root) ∧
          ({t | v.Reaches root t}.Finite →
            ∃ depth result, v.hintsFor depth root = some result) := by
  have hvisit : ∀ depth, v'.visit depth root .start = v.visit depth root .start := by
    intro depth
    have hrel := (lockstep_of_agreesAt hfactory h).visit depth .refl (Eq.refl Walk.start)
    generalize v.visit depth root .start = result at hrel
    generalize v'.visit depth root .start = result' at hrel
    cases hrel with
    | some heq => rw [heq]
    | none => rfl
  refine ⟨fun _ => reaches_iff_of_agreesAt h, hvisit, ?_, ?_⟩
  · intro depth
    unfold hintsFor
    rw [resolve_eq, resolve_eq, hvisit]
  · intro hfinite
    obtain ⟨depth, w, hw⟩ := exists_visit_iff_finite.2 hfinite
    exact ⟨depth, _, hintsFor_of_visit hw⟩

end Vocabulary

/-! ## Folders with an archive

An archive has the tag of a folder, keeps notes under the name of a folder's trash, and has folders
among its subtypes. All this is lost on folders, which lead to no archive. -/

namespace Folders

def archive : TypeName := ⟨"Archive"⟩

def archiveRegistry : Registry where
  bindings :=
    ⟨archive, some entry, some ⟨some "folder"⟩, [⟨"isOpen", some "open", .scalar "date"⟩],
      [⟨"getNotes", .named "trash", .element note⟩]⟩ :: registry.bindings.reverse
  nodup_names := by decide

def archiveVocabulary : Vocabulary where
  registry := archiveRegistry
  subtypes type := if type = archive then [folder] else vocabulary.subtypes type
  factory := none

theorem mem_of_reaches_folder {type : TypeName} (h : vocabulary.Reaches folder type) :
    type ∈ [folder, entry, note] := by
  have hvisit : (vocabulary.visit 4 folder .start).map (·.context.types) =
      some [folder, entry, note] := by
    decide +kernel
  obtain ⟨w, hw, htypes⟩ := Option.map_eq_some_iff.1 hvisit
  rw [← htypes]
  exact (Vocabulary.mem_types_iff_reaches hw).2 h

theorem agreesAt_of_reaches_folder (type : TypeName) (h : vocabulary.Reaches folder type) :
    vocabulary.AgreesAt archiveVocabulary type := by
  have hmem := mem_of_reaches_folder h
  simp only [List.mem_cons, List.not_mem_nil, or_false] at hmem
  rcases hmem with rfl | rfl | rfl <;> constructor <;> decide +kernel

theorem hintsFor_folder_eq_with_archive : archiveVocabulary.factory = vocabulary.factory ∧
    (∀ t, vocabulary.Reaches folder t → vocabulary.AgreesAt archiveVocabulary t) ∧
      (∀ t, archiveVocabulary.Reaches folder t ↔ vocabulary.Reaches folder t) ∧
        (∀ depth, archiveVocabulary.visit depth folder .start =
            vocabulary.visit depth folder .start) ∧
          (∀ depth, archiveVocabulary.hintsFor depth folder = vocabulary.hintsFor depth folder) ∧
            ({t | vocabulary.Reaches folder t}.Finite →
              ∃ depth result, vocabulary.hintsFor depth folder = some result) :=
  ⟨rfl, agreesAt_of_reaches_folder,
    Vocabulary.hintsFor_eq_of_agreesAt rfl agreesAt_of_reaches_folder⟩

end Folders

end TagGrammar
