import TagGrammar.Proofs.DeclaredGrammar
import TagGrammar.Proofs.Walk.Returns

/-!
# Visits keep what they find

A visit changes nothing that is in the context when it begins, whatever other visits are under way
then: the descriptors stay as they are, and so does what is found by type. A tag keeps leading
somewhere, but may be led to one of the descriptors that the visit creates.

Those descriptors in turn are left alone as soon as the visit has returned: the visits that are
still under way were begun before it, and visits that are begun later change only what they create.
-/

namespace TagGrammar

namespace Vocabulary

/-- A visit keeps all descriptors, all that is found by type, and all tags. Whatever visits it is
part of, the descriptors that it has created stay as they are when it returns: this is so whenever
anything else is begun later, and in the end. -/
theorem visit_keeps {v : Vocabulary} {depth : Nat} {type : TypeName} {w w' : Walk}
    (h : v.visit depth type w = some w') :
    (∀ id < w.context.size, w'.context.descriptors[id]? = w.context.descriptors[id]?) ∧
      (∀ t id, w.context.idOf? t = some id → w'.context.idOf? t = some id) ∧
      (∀ tag id, w.context.tagged? tag = some id → w'.context.tagged? tag = some id ∨
        ∃ created, w'.context.tagged? tag = some created ∧
          w.context.size ≤ created ∧ created < w'.context.size) ∧
      (∀ roots u next x, Precedes v (.visitAll roots) u (.visit type) w next x →
        ∀ id, w.context.size ≤ id → id < w'.context.size →
          x.context.descriptors[id]? = w'.context.descriptors[id]?) ∧
      ∀ calls u u' stack, v.visitEach calls u = some u' →
        Calls v (.visitAll (calls.map Prod.snd)) u stack (.visit type) w →
          ∀ id, w.context.size ≤ id → id < w'.context.size →
            u'.context.descriptors[id]? = w'.context.descriptors[id]? := by
  have hrun : Runs v (.visit type) w w' := runs_of_visit depth type w w' h
  have hframe := hrun.frame
  refine ⟨fun id hlt => hframe.descriptors id hlt (by simp [Task.own]),
    fun t id hid => hframe.idOf? hid, ?_, ?_, ?_⟩
  · intro tag id hid
    rcases hframe.tagged? tag with hold | hnew
    · exact .inl (hold.trans hid)
    · exact .inr hnew
  · intro roots u next x hlater id hle hlt
    have hafter := hlater.frame hrun (hasOwn_visitAll _ _)
    exact hafter.descriptors id hlt (Nat.not_lt.2 hle)
  · intro calls u u' stack hcalls hcall id hle hlt
    have hafter := hcall.frame_after hrun (runs_of_visitEach hcalls) (hasOwn_visitAll _ _)
    exact hafter.descriptors id hlt (Nat.not_lt.2 hle)

end Vocabulary

namespace Folders

/-- The moment in a visit to a folder when its first child is about to be settled. -/
def opened : Walk := Walk.start.enter vocabulary folder

/-- The children of a folder that come after its entries. -/
def restOfFolder : List ChildBinding :=
  [⟨"getTrash", .named "trash", .element folder⟩, ⟨"getRest", .reference, .erasedList⟩]

/-- The entries of a folder are dealt with first, as it has no subtypes. -/
theorem calls_children :
    Calls vocabulary (.visitAll [folder]) .start [folder]
      (.settleAll folder 0 (⟨"getEntries", .reference, .list (.element entry)⟩ :: restOfFolder))
      opened := by
  have new : folder ∉ Walk.start.context.types := not_mem_types_start folder
  have below : Runs vocabulary (.visitAll (vocabulary.subtypes folder)) opened opened := by
    have hnone : vocabulary.subtypes folder = [] := by decide
    rw [hnone]
    exact .visitNil
  have hchildren : vocabulary.children folder =
      ⟨"getEntries", .reference, .list (.element entry)⟩ :: restOfFolder := by
    decide +kernel
  refine .first (.children new below ?_)
  rw [hchildren]
  exact .here

theorem visit_entry_keeps : ∃ w' u' x, vocabulary.visit 4 entry opened = some w' ∧
    Precedes vocabulary (.visitAll [folder]) .start (.visit entry) opened
      (.settleAll folder 0 restOfFolder) x ∧
    vocabulary.visitEach [(5, folder)] .start = some u' ∧
    (∀ id < opened.context.size,
        w'.context.descriptors[id]? = opened.context.descriptors[id]?) ∧
      (∀ t id, opened.context.idOf? t = some id → w'.context.idOf? t = some id) ∧
      (∀ tag id, opened.context.tagged? tag = some id → w'.context.tagged? tag = some id ∨
        ∃ created, w'.context.tagged? tag = some created ∧
          opened.context.size ≤ created ∧ created < w'.context.size) ∧
      (∀ id, opened.context.size ≤ id → id < w'.context.size →
        x.context.descriptors[id]? = w'.context.descriptors[id]?) ∧
      ∀ id, opened.context.size ≤ id → id < w'.context.size →
        u'.context.descriptors[id]? = w'.context.descriptors[id]? := by
  have hsome : (vocabulary.visit 4 entry opened).isSome := by decide +kernel
  obtain ⟨w', hw'⟩ := Option.isSome_iff_exists.1 hsome
  have heach : (vocabulary.visitEach [(5, folder)] .start).isSome := by decide +kernel
  obtain ⟨u', hu'⟩ := Option.isSome_iff_exists.1 heach
  have hrun : Runs vocabulary (.visit entry) opened w' := Vocabulary.runs_of_visit 4 _ _ _ hw'
  have hcall := calls_children.trans (.child rfl .here)
  have hlater := Precedes.within calls_children (.child rfl .here hrun .here)
  obtain ⟨hdescriptors, htypes, htags, hbetween, hafter⟩ := Vocabulary.visit_keeps hw'
  exact ⟨w', u', _, hw', hlater, hu', hdescriptors, htypes, htags, hbetween _ _ _ _ hlater,
    hafter _ _ _ _ hu' hcall⟩

end Folders

end TagGrammar
