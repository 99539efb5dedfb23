import Mathlib.Data.Set.Card
import TagGrammar.Proofs.Document
import TagGrammar.Proofs.Walk.Calls

/-!
# Every visit comes to an end

Children refer to the types that hold them, supertypes may run in a circle, and a type may be
reported as a subtype of itself. A visit ends nevertheless, from whatever context it is begun in:
a new type becomes known before anything is visited on its behalf, so the visits under way are to
distinct types, and there are only so many types that can be met.

This bounds how deep visits can be nested, and so gives a depth that is enough: the number of types
that can be met and are not yet known.
-/

namespace TagGrammar

namespace Vocabulary

/-- The types that can be met from a root and are not yet known. -/
def unknownFrom (v : Vocabulary) (root : TypeName) (w : Walk) : Set TypeName :=
  {t | v.Reaches root t ∧ t ∉ w.context.types}

variable {v : Vocabulary} {root : TypeName} {w u : Walk} {stack : List TypeName}

/-! ## Finitely many types -/

/-- If subtypes are taken from finitely many types, then only finitely many types can be met. -/
theorem finite_reaches (hfinite : {t | ∃ type, t ∈ v.subtypes type}.Finite) (root : TypeName) :
    {t | v.Reaches root t}.Finite := by
  -- with a list of all answers, the vocabulary is one of those whose types are known to be closed
  let source : SubtypeSource :=
    { subtypes := v.subtypes
      answers := hfinite.toFinset.toList
      mem_answers := by
        intro type t ht
        rw [Finset.mem_toList, Set.Finite.mem_toFinset]
        exact ⟨type, ht⟩ }
  let g : Generator := ⟨v.registry, source, v.factory⟩
  apply (g.typesFrom root).finite_toSet.subset
  intro t ht
  exact (g.closed_typesFrom root).mem_of_reaches List.mem_cons_self ht

theorem finite_unknownFrom (h : {t | v.Reaches root t}.Finite) (w : Walk) :
    (v.unknownFrom root w).Finite :=
  h.subset fun _ ht => ht.1

/-! ## The visits under way -/

/-- The visits under way within a visit are to types that it met, and that were not known before. -/
theorem mem_unknownFrom_of_calls {sub : Task} (h : Calls v (.visit root) w stack sub u) :
    ∀ t ∈ stack, t ∈ v.unknownFrom root w := by
  intro t ht
  obtain ⟨origin, ho, hr⟩ := h.exists_reaches t ht
  rw [List.mem_singleton.1 ho] at hr
  exact ⟨hr, h.underWay.new t ht⟩

/-- No more visits are under way than there are types to be met. -/
theorem length_le_ncard_of_calls {sub : Task} (hfinite : (v.unknownFrom root w).Finite)
    (h : Calls v (.visit root) w stack sub u) :
    stack.length ≤ (v.unknownFrom root w).ncard := by
  have hsub : (stack.toFinset : Set TypeName) ⊆ v.unknownFrom root w := by
    intro t ht
    exact mem_unknownFrom_of_calls h t (List.mem_toFinset.1 (Finset.mem_coe.1 ht))
  calc stack.length = stack.toFinset.card := (List.toFinset_card_of_nodup h.underWay.nodup).symm
    _ = (stack.toFinset : Set TypeName).ncard := (Set.ncard_coe_finset _).symm
    _ ≤ (v.unknownFrom root w).ncard := Set.ncard_le_ncard hsub hfinite

/-- So that many levels are enough. -/
theorem deepEnough_of_ncard_le {depth : Nat} (hfinite : (v.unknownFrom root w).Finite)
    (h : (v.unknownFrom root w).ncard ≤ depth) : v.DeepEnough depth (.visit root) w := by
  intro stack t u call new
  have hlength := length_le_ncard_of_calls hfinite (call.enter new)
  rw [List.length_append, List.length_singleton] at hlength
  omega

/-! ## Termination -/

/-- If subtypes are taken from finitely many types, every visit ends, whatever the context in which
it is begun, and as many levels as there are unknown types to be met are enough for it. What takes a
level is a visit to a new type, as it is begun in a run, and a run is what some depth is enough for.
The visits under way are to distinct types. Each of them was begun when its type was not known yet,
and made it known before anything was visited on its behalf. -/
theorem visit_ends {v : Vocabulary} (hfinite : {t | ∃ type, t ∈ v.subtypes type}.Finite)
    (root : TypeName) (w : Walk) :
    {t | v.Reaches root t}.Finite ∧
      (∃ w', ∀ depth, (v.unknownFrom root w).ncard ≤ depth → v.visit depth root w = some w') ∧
      (∀ depth w', v.visit depth root w = some w' ↔ Runs v (.visit root) w w' ∧
        ∀ stack t u, Calls v (.visit root) w stack (.visit t) u → t ∉ u.context.types →
          stack.length < depth) ∧
      (∀ task u u', Runs v task u u' ↔ ∃ depth, v.perform depth task u = some u') ∧
      ∀ stack sub u, Calls v (.visit root) w stack sub u →
        stack.Nodup ∧ (∀ t ∈ stack, v.Reaches root t) ∧
          stack.length ≤ {t | v.Reaches root t}.ncard ∧
          ∀ outer t inner, stack = outer ++ t :: inner →
            (∃ x, Calls v (.visit root) w outer (.visit t) x ∧ t ∉ x.context.types) ∧
              t ∈ u.context.types := by
  have hreached := finite_reaches hfinite root
  have hunknown := finite_unknownFrom hreached w
  refine ⟨hreached, ?_, ?_, fun _ _ _ => runs_iff, ?_⟩
  · obtain ⟨enough, w', hw'⟩ := exists_visit_of_finite hreached w
    refine ⟨w', fun depth hdepth => ?_⟩
    have hrun : Runs v (.visit root) w w' := runs_of_visit enough root w w' hw'
    exact perform_eq_some_iff.2 ⟨hrun, deepEnough_of_ncard_le hunknown hdepth⟩
  · intro depth w'
    show v.perform depth (.visit root) w = some w' ↔ _
    exact perform_eq_some_iff
  · intro stack sub u call
    refine ⟨call.underWay.nodup, fun t ht => (mem_unknownFrom_of_calls call t ht).1, ?_, ?_⟩
    · calc stack.length ≤ (v.unknownFrom root w).ncard := length_le_ncard_of_calls hunknown call
        _ ≤ {t | v.Reaches root t}.ncard := Set.ncard_le_ncard (fun _ ht => ht.1) hreached
    · intro outer t inner hstack
      have hmem : t ∈ stack := by
        rw [hstack]
        exact List.mem_append_right _ List.mem_cons_self
      exact ⟨call.exists_begun hstack, call.underWay.known t hmem⟩

end Vocabulary

namespace Folders

theorem ncard_unknownFrom_folder : (vocabulary.unknownFrom folder .start).ncard = 3 := by
  obtain ⟨w, hw, htypes⟩ : ∃ w, vocabulary.visit 4 folder .start = some w ∧
      w.context.types = [folder, entry, note] :=
    Option.map_eq_some_iff.1 (by decide +kernel)
  have hset : vocabulary.unknownFrom folder .start =
      (({folder, entry, note} : Finset TypeName) : Set TypeName) := by
    ext t
    show (vocabulary.Reaches folder t ∧ t ∉ Walk.start.context.types) ↔ _
    rw [← Vocabulary.mem_types_iff_reaches hw, htypes]
    simp [not_mem_types_start]
  rw [hset, Set.ncard_coe_finset]
  decide

/-- The root holds entries, which are folders again, and entries count among their own subtypes.
Three types can be met, and three levels are needed: a note is met within the visits to a folder and
to an entry. -/
theorem visit_folder_ends : {t | ∃ type, t ∈ vocabulary.subtypes type}.Finite ∧
    (∃ w', ∀ depth, 3 ≤ depth → vocabulary.visit depth folder .start = some w') ∧
      vocabulary.visit 2 folder .start = none ∧
      ∃ stack t u, Calls vocabulary (.visit folder) .start stack (.visit t) u ∧
        t ∉ u.context.types ∧ stack.length = 2 ∧ stack.Nodup ∧
          ∀ t ∈ stack, vocabulary.Reaches folder t ∧ t ∈ u.context.types := by
  have hfinite : {t | ∃ type, t ∈ vocabulary.subtypes type}.Finite := by
    apply [folder, note, entry].finite_toSet.subset
    rintro t ⟨type, ht⟩
    have hsub : t ∈ if type = entry then [folder, note, entry] else [] := ht
    split at hsub
    · exact hsub
    · cases hsub
  have hnone : vocabulary.visit 2 folder .start = none :=
    Option.isNone_iff_eq_none.1 (by decide +kernel)
  obtain ⟨_, ⟨w', hw'⟩, hvisit, _, hcalls⟩ := Vocabulary.visit_ends hfinite folder .start
  rw [ncard_unknownFrom_folder] at hw'
  obtain ⟨hrun, hthree⟩ := (hvisit 3 w').1 (hw' 3 (Nat.le_refl 3))
  -- two levels are not enough, so there is a visit within two others
  have htwo : ¬ ∀ stack t u, Calls vocabulary (.visit folder) .start stack (.visit t) u →
      t ∉ u.context.types → stack.length < 2 := by
    intro hall
    have hsome := (hvisit 2 w').2 ⟨hrun, hall⟩
    rw [hnone] at hsome
    cases hsome
  push Not at htwo
  obtain ⟨stack, t, u, call, new, htwo⟩ := htwo
  have hlt := hthree stack t u call new
  obtain ⟨hnodup, hreached, _, hbegun⟩ := hcalls stack _ u call
  refine ⟨hfinite, ⟨w', hw'⟩, hnone, stack, t, u, call, new, by omega, hnodup, fun s hs => ?_⟩
  obtain ⟨outer, inner, hstack⟩ := List.append_of_mem hs
  exact ⟨hreached s hs, (hbegun outer s inner hstack).2⟩

end Folders

end TagGrammar
