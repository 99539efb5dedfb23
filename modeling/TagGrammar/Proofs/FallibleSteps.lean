import Mathlib.Data.List.Forall2

/-!
# Steps that may fail

Where steps follow each other and each may fail, all of them succeed or the whole fails. So a whole
that succeeds can be taken apart into its steps (`bind_eq_ok_iff`, `mapM_eq_ok_iff`), and where it
is known of every step when it succeeds, it is known of the whole (`GivesIff`).
-/

namespace TagGrammar

universe u v w

variable {ε : Type u} {α β : Type v}

@[simp] theorem ok_bind (a : α) (f : α → Except ε β) : (Except.ok a >>= f) = f a := rfl

@[simp] theorem error_bind (e : ε) (f : α → Except ε β) :
    ((Except.error e : Except ε α) >>= f) = .error e := rfl

theorem bind_eq_ok_iff {x : Except ε α} {f : α → Except ε β} {b : β} :
    x >>= f = .ok b ↔ ∃ a, x = .ok a ∧ f a = .ok b := by
  cases x with
  | error e =>
    constructor
    · rintro ⟨⟩
    · rintro ⟨_, ⟨⟩, _⟩
  | ok a =>
    constructor
    · exact fun h => ⟨a, rfl, h⟩
    · rintro ⟨_, ⟨⟩, h⟩
      exact h

/-- Where something is done for every item, it succeeds for every item. -/
theorem mapM_eq_ok_iff {γ : Type w} {f : γ → Except ε α} {l : List γ} {as : List α} :
    l.mapM f = .ok as ↔ List.Forall₂ (fun c a => f c = .ok a) l as := by
  induction l generalizing as with
  | nil =>
    rw [List.mapM_nil, List.forall₂_nil_left_iff]
    constructor
    · intro h
      cases h
      rfl
    · rintro rfl
      rfl
  | cons c l ih =>
    rw [List.mapM_cons, bind_eq_ok_iff, List.forall₂_cons_left_iff]
    constructor
    · rintro ⟨a, ha, h⟩
      obtain ⟨rest, hrest, h⟩ := bind_eq_ok_iff.1 h
      cases h
      exact ⟨a, rest, ha, ih.1 hrest, rfl⟩
    · rintro ⟨a, rest, ha, hrest, rfl⟩
      refine ⟨a, ha, ?_⟩
      rw [ih.2 hrest]
      rfl

theorem exists_ok_of_mapM_eq_ok {γ : Type w} {f : γ → Except ε α} {l : List γ} {as : List α}
    (h : l.mapM f = .ok as) : ∀ c ∈ l, ∃ a, f c = .ok a := by
  induction mapM_eq_ok_iff.1 h with
  | nil =>
    intro c hc
    cases hc
  | @cons c a l as hca hrest ih =>
    intro d hd
    rcases List.mem_cons.1 hd with rfl | hd
    · exact ⟨a, hca⟩
    · exact ih (mapM_eq_ok_iff.2 hrest) d hd

/-! ## When steps succeed -/

/-- The step gives `a` if `p` holds, and fails if not. -/
def GivesIff (x : Except ε α) (p : Prop) (a : α) : Prop :=
  ∀ b, x = .ok b ↔ p ∧ b = a

namespace GivesIff

variable {x : Except ε α} {p q : Prop} {a : α}

theorem ok (hp : p) : GivesIff (.ok a : Except ε α) p a := by
  intro b
  constructor
  · rintro ⟨⟩
    exact ⟨hp, rfl⟩
  · rintro ⟨_, rfl⟩
    rfl

theorem error {e : ε} (hp : ¬ p) : GivesIff (.error e : Except ε α) p a := by
  intro b
  constructor
  · rintro ⟨⟩
  · rintro ⟨h, _⟩
    exact absurd h hp

theorem congr (h : GivesIff x p a) (hpq : p ↔ q) : GivesIff x q a := by
  intro b
  rw [h b, hpq]

theorem bind {f : α → Except ε β} {b : β} (hx : GivesIff x p a) (hf : GivesIff (f a) q b) :
    GivesIff (x >>= f) (p ∧ q) b := by
  intro c
  rw [bind_eq_ok_iff]
  constructor
  · rintro ⟨a', ha', hc⟩
    obtain ⟨hp, rfl⟩ := (hx a').1 ha'
    obtain ⟨hq, hbc⟩ := (hf c).1 hc
    exact ⟨⟨hp, hq⟩, hbc⟩
  · rintro ⟨⟨hp, hq⟩, hbc⟩
    exact ⟨a, (hx a).2 ⟨hp, rfl⟩, (hf c).2 ⟨hq, hbc⟩⟩

theorem map {f : α → β} (hx : GivesIff x p a) :
    GivesIff (do return f (← x)) p (f a) := by
  have h : GivesIff (x >>= fun a => .ok (f a)) (p ∧ True) (f a) := hx.bind (ok trivial)
  exact h.congr (Iff.of_eq (and_true p))

theorem mapM {γ : Type w} {f : γ → Except ε α} {P : γ → Prop} {g : γ → α} {l : List γ}
    (h : ∀ c ∈ l, GivesIff (f c) (P c) (g c)) :
    GivesIff (l.mapM f) (∀ c ∈ l, P c) (l.map g) := by
  induction l with
  | nil => exact ok (by simp)
  | cons c l ih =>
    obtain ⟨hc, hl⟩ := List.forall_mem_cons.1 h
    rw [List.mapM_cons]
    exact (hc.bind (ih hl).map).congr List.forall_mem_cons.symm

end GivesIff

end TagGrammar
