/-!
# What has not been seen

A search through a finite collection that never looks at a member twice ends, because what it has
not seen shrinks with every member it looks at.
-/

namespace TagGrammar

variable {α : Type u} [DecidableEq α]

/-- The members of `whole` that are not in `seen`. -/
def unseen (whole seen : List α) : List α := whole.filter fun a => decide (a ∉ seen)

theorem length_unseen_cons_lt {whole seen : List α} {a : α} (ha : a ∈ whole)
    (hs : a ∉ seen) : (unseen whole (a :: seen)).length < (unseen whole seen).length := by
  have key : ∀ x, decide (x ∉ a :: seen) = (decide (x ≠ a) && decide (x ∉ seen)) := by
    intro x
    simp
  have : unseen whole (a :: seen) = (unseen whole seen).filter fun x => decide (x ≠ a) := by
    unfold unseen
    rw [List.filter_filter]
    exact List.filter_congr fun x _ => key x
  rw [this]
  refine List.length_filter_lt_length_iff_exists.2 ⟨a, ?_, by simp⟩
  simp [unseen, ha, hs]

theorem length_unseen_le_of_subset {whole seen more : List α} (h : seen ⊆ more) :
    (unseen whole more).length ≤ (unseen whole seen).length := by
  have : unseen whole more = (unseen whole seen).filter fun x => decide (x ∉ more) := by
    unfold unseen
    rw [List.filter_filter]
    refine List.filter_congr fun x _ => ?_
    by_cases hx : x ∈ more
    · simp [hx]
    · have : x ∉ seen := fun hs => hx (h hs)
      simp [hx, this]
  rw [this]
  exact List.length_filter_le _ _

end TagGrammar
