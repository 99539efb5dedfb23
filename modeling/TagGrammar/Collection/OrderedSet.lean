/-!
# Sets in order of insertion

Distinct members in the order in which they first came. Adding a member that is there changes
nothing:

    members_insert : (s.insert a).members = if a ∈ s.members then s.members else s.members ++ [a]
-/

namespace TagGrammar

/-- Distinct members in the order in which they were first added. -/
structure OrderedSet (α : Type u) where
  members : List α
  /-- No member occurs twice. -/
  nodup_members : members.Nodup
  deriving DecidableEq

namespace OrderedSet

variable {α : Type u} [DecidableEq α]

def empty : OrderedSet α := ⟨[], List.nodup_nil⟩

instance : Inhabited (OrderedSet α) := ⟨⟨[], List.nodup_nil⟩⟩

/-- Add `a` at the end, unless it is a member. -/
def insert (s : OrderedSet α) (a : α) : OrderedSet α :=
  if h : a ∈ s.members then s
  else
    ⟨s.members ++ [a], List.nodup_append.2 ⟨s.nodup_members, by simp, by
      rintro x hx y hy rfl
      exact h (List.mem_singleton.1 hy ▸ hx)⟩⟩

/-- The members of a list, each at its first occurrence. -/
def ofList (l : List α) : OrderedSet α := l.foldl insert empty

/-- Whether two sets have the same members, whatever their order. -/
def sameMembers (s t : OrderedSet α) : Bool :=
  s.members.all (· ∈ t.members) && t.members.all (· ∈ s.members)

theorem members_insert (s : OrderedSet α) (a : α) :
    (s.insert a).members = if a ∈ s.members then s.members else s.members ++ [a] := by
  unfold insert
  split <;> simp_all

theorem mem_members_insert {s : OrderedSet α} {a x : α} :
    x ∈ (s.insert a).members ↔ x ∈ s.members ∨ x = a := by
  rw [members_insert]
  split
  · next h => exact ⟨.inl, fun hx => hx.elim id (· ▸ h)⟩
  · simp

end OrderedSet

/-- The values suggested for an attribute, in order. -/
abbrev ValueSet := OrderedSet String

end TagGrammar
