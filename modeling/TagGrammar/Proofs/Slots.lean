import Mathlib.Order.Bounds.Basic
import TagGrammar.Proofs.Entries

/-!
# The last descriptor with a tag

Descriptors are found by type and by tag. Two types never share a descriptor. A tag leads to the
last of all descriptors that have it, of which some belong to types and others were made for named
children. `Context.Indexed` says so, and every walk keeps it, whatever tags collide.

So the descriptors can be handed over to the table one by one, each taken out of its slot by the tag
that leads to it (`takeAll`). No slot is missing and none is found empty, and what the table has for
a tag is the last descriptor with this tag.
-/

namespace TagGrammar

namespace Context

/-- The indices of the descriptors with a tag. -/
def withTag (c : Context) (tag : String) : Set Nat :=
  {id | ∃ d, c.descriptors[id]? = some d ∧ d.tag = some tag}

/-- What is found by type and by tag is what it should be. -/
structure Indexed (c : Context) : Prop where
  lt_size : ∀ {type : TypeName} {id : Nat}, c.idOf? type = some id → id < c.size
  distinct : ∀ {type other : TypeName} {id : Nat},
    c.idOf? type = some id → c.idOf? other = some id → type = other
  /-- A tag leads to the last descriptor that has it, -/
  tagged?_iff : ∀ {tag : String} {id : Nat},
    c.tagged? tag = some id ↔ IsGreatest (c.withTag tag) id
  /-- and every tag that some descriptor has leads somewhere. -/
  exists_tagged? : ∀ {tag : String}, (c.withTag tag).Nonempty → ∃ id, c.tagged? tag = some id

variable {c : Context}

/-! ## Descriptors with a tag -/

theorem lt_size_of_mem_withTag {tag : String} {id : Nat} (h : id ∈ c.withTag tag) :
    id < c.size := by
  obtain ⟨d, hd, _⟩ := h
  exact (Array.getElem?_eq_some_iff.1 hd).1

theorem tag_unique {tag other : String} {id : Nat} (h : id ∈ c.withTag tag)
    (h' : id ∈ c.withTag other) : tag = other := by
  obtain ⟨d, hd, htag⟩ := h
  obtain ⟨e, he, hother⟩ := h'
  rw [hd] at he
  cases he
  exact Option.some.inj (htag.symm.trans hother)

theorem mem_withTag_addTagged_iff {d : Descriptor} {tag : String} {id : Nat} :
    id ∈ (c.addTagged d).withTag tag ↔ (id = c.size ∧ d.tag = some tag) ∨ id ∈ c.withTag tag := by
  show (∃ e, (c.addTagged d).descriptors[id]? = some e ∧ e.tag = some tag) ↔ _
  rw [descriptors_addTagged]
  split
  · next heq =>
    have hnew : id ∉ c.withTag tag := fun h => Nat.ne_of_lt (lt_size_of_mem_withTag h) heq
    simp [heq, heq ▸ hnew]
  · next hne =>
    simp only [hne, false_and, false_or]
    exact Iff.rfl

theorem withTag_modify {f : Descriptor → Descriptor} (hf : ∀ d, (f d).tag = d.tag) (id : Nat)
    (tag : String) : (c.modify id f).withTag tag = c.withTag tag := by
  apply Set.ext
  intro i
  show (∃ e, (c.modify id f).descriptors[i]? = some e ∧ e.tag = some tag) ↔ _
  rw [descriptors_modify]
  split
  · simp only [Option.map_eq_some_iff, exists_exists_and_eq_and, hf]
    exact Iff.rfl
  · exact Iff.rfl

/-- A new descriptor is the last one with its tag. -/
theorem isGreatest_addTagged_iff {d : Descriptor} {tag : String} {id : Nat} :
    IsGreatest ((c.addTagged d).withTag tag) id ↔
      if d.tag = some tag then id = c.size else IsGreatest (c.withTag tag) id := by
  split
  · next htag =>
    have hnew : IsGreatest ((c.addTagged d).withTag tag) c.size := by
      refine ⟨mem_withTag_addTagged_iff.2 (.inl ⟨rfl, htag⟩), fun i hi => ?_⟩
      have hlt := lt_size_of_mem_withTag hi
      rw [size_addTagged] at hlt
      exact Nat.le_of_lt_succ hlt
    constructor
    · intro h
      exact h.unique hnew
    · rintro rfl
      exact hnew
  · next htag =>
    have hold : (c.addTagged d).withTag tag = c.withTag tag := by
      apply Set.ext
      intro i
      rw [mem_withTag_addTagged_iff]
      exact or_iff_right fun h => htag h.2
    rw [hold]

/-! ## Changes of a context -/

theorem indexed_empty : Indexed .empty where
  lt_size := by simp [idOf?, empty]
  distinct := by simp [idOf?, empty]
  tagged?_iff := by
    intro tag id
    constructor
    · intro h
      cases h
    · rintro ⟨⟨d, hd, _⟩, _⟩
      cases hd
  exists_tagged? := by
    rintro tag ⟨id, d, hd, _⟩
    cases hd

namespace Indexed

theorem addTagged (h : c.Indexed) (d : Descriptor) : (c.addTagged d).Indexed where
  lt_size := by
    intro type id hid
    rw [size_addTagged]
    exact Nat.lt_succ_of_lt (h.lt_size hid)
  distinct := h.distinct
  tagged?_iff := by
    intro tag id
    rw [tagged?_addTagged, isGreatest_addTagged_iff]
    split
    · rw [Option.some.injEq]
      exact eq_comm
    · exact h.tagged?_iff
  exists_tagged? := by
    rintro tag ⟨id, hid⟩
    rw [tagged?_addTagged]
    split
    · exact ⟨_, rfl⟩
    · next htag =>
      have hold := (mem_withTag_addTagged_iff.1 hid).resolve_left fun hnew => htag hnew.2
      exact h.exists_tagged? ⟨id, hold⟩

/-- A new type gets an index that no other type has. -/
theorem addType (h : c.Indexed) (type : TypeName) (d : Descriptor) :
    (c.addType type d).Indexed where
  lt_size := by
    intro other id hid
    rw [size_addType]
    rw [idOf?_addType] at hid
    split at hid
    · cases hid
      exact Nat.lt_succ_self _
    · exact Nat.lt_succ_of_lt (h.lt_size hid)
  distinct := by
    intro t u id ht hu
    rw [idOf?_addType] at ht hu
    split at ht <;> split at hu
    · next h₁ h₂ => exact h₁.symm.trans h₂
    -- the new index is beyond all those that other types have
    · cases ht
      exact absurd (h.lt_size hu) (Nat.lt_irrefl _)
    · cases hu
      exact absurd (h.lt_size ht) (Nat.lt_irrefl _)
    · exact h.distinct ht hu
  tagged?_iff := (h.addTagged d).tagged?_iff
  exists_tagged? := (h.addTagged d).exists_tagged?

theorem modify (h : c.Indexed) (id : Nat) {f : Descriptor → Descriptor}
    (hf : ∀ d, (f d).tag = d.tag) : (c.modify id f).Indexed where
  lt_size := by
    intro type i hi
    rw [size_modify]
    exact h.lt_size hi
  distinct := h.distinct
  tagged?_iff := by
    intro tag i
    rw [tagged?_modify, withTag_modify hf]
    exact h.tagged?_iff
  exists_tagged? := by
    intro tag htag
    rw [withTag_modify hf] at htag
    exact h.exists_tagged? htag

/-! ## Walks -/

theorem settle {w : Walk} (h : w.context.Indexed) (type : TypeName) (id : Nat)
    (child : ChildBinding) (target : TypeName) :
    (w.settle type id child target).context.Indexed := by
  unfold Walk.settle Walk.attach
  rw [Walk.context_note]
  cases child.kind with
  | reference => exact h.modify id fun _ => rfl
  | named name => exact (h.addTagged _).modify id fun _ => rfl

/-- A run keeps what is found by type and by tag in order, wherever it begins. -/
theorem run {v : Vocabulary} {task : Task} {w w' : Walk} (hrun : Runs v task w w')
    (h : w.context.Indexed) : w'.context.Indexed := by
  induction hrun with
  | known _ => exact h
  | enter _ _ _ ihbelow ihwithin => exact ihwithin (ihbelow (h.addType _ _))
  | visitNil => exact h
  | visitCons _ _ ihfirst ihothers => exact ihothers (ihfirst h)
  | settleNil => exact h
  | skip _ _ ihothers => exact ihothers h
  | settle _ _ _ ihfirst ihothers => exact ihothers ((ihfirst h).settle _ _ _ _)

/-! ## The table -/

theorem exists_descriptor {tag : String} {id : Nat} (h : c.Indexed)
    (hid : c.tagged? tag = some id) : ∃ d, c.descriptors[id]? = some d ∧ d.tag = some tag :=
  (h.tagged?_iff.1 hid).1

theorem mem_tags_toTable_iff (h : c.Indexed) {tag : String} :
    tag ∈ c.toTable.tags ↔ (c.withTag tag).Nonempty := by
  rw [TagTable.mem_tags_iff]
  simp only [get?_toTable_eq_some_iff]
  constructor
  · rintro ⟨_, id, hid, _⟩
    exact ⟨id, (h.tagged?_iff.1 hid).1⟩
  · intro htag
    obtain ⟨id, hid⟩ := h.exists_tagged? htag
    obtain ⟨d, hd, _⟩ := h.exists_descriptor hid
    exact ⟨d, id, hid, hd⟩

theorem get?_toTable_eq_some_iff (h : c.Indexed) {tag : String} {d : Descriptor} :
    c.toTable.get? tag = some d ↔
      ∃ id, IsGreatest (c.withTag tag) id ∧ c.descriptors[id]? = some d := by
  rw [Context.get?_toTable_eq_some_iff]
  simp only [h.tagged?_iff]

/-! ## Handing over -/

/-- Different tags lead to different descriptors. -/
theorem nodup_ids (h : c.Indexed) : (c.byTag.entries.map Prod.snd).Nodup := by
  have hnodup : c.byTag.entries.Nodup := c.byTag.nodup_keys.of_map
  apply (List.nodup_map_iff_inj_on hnodup).2
  rintro ⟨tag, id⟩ he ⟨other, i⟩ hother heq
  cases heq
  have htag := (h.tagged?_iff.1 (OrderedMap.get?_eq_some_iff.2 he)).1
  have hother' := (h.tagged?_iff.1 (OrderedMap.get?_eq_some_iff.2 hother)).1
  rw [tag_unique htag hother']

end Indexed

/-- Where no index comes twice and every slot is full, every tag gets a descriptor. -/
theorem takeAll_eq {f : Nat → Descriptor} {l : List (String × Nat)}
    {slots : Array (Option Descriptor)} (hnodup : (l.map Prod.snd).Nodup)
    (hfull : ∀ e ∈ l, slots[e.2]? = some (some (f e.2))) :
    takeAll slots l = some (l.map fun e => (e.1, f e.2)) := by
  induction l generalizing slots with
  | nil => rfl
  | cons e rest ih =>
    obtain ⟨tag, id⟩ := e
    rw [List.map_cons, List.nodup_cons] at hnodup
    have hslot : slots[id]? = some (some (f id)) := hfull (tag, id) List.mem_cons_self
    -- no later entry asks for the slot that has just been emptied
    have hrest : takeAll (slots.setIfInBounds id none) rest =
        some (rest.map fun e => (e.1, f e.2)) := by
      apply ih hnodup.2
      intro e he
      have hmem : e.2 ∈ rest.map Prod.snd := List.mem_map_of_mem he
      have hne : id ≠ e.2 := fun heq => hnodup.1 (heq ▸ hmem)
      rw [Array.getElem?_setIfInBounds_ne hne]
      exact hfull e (List.mem_cons_of_mem _ he)
    show (slots[id]?.bind fun slot => (takeAll (slots.setIfInBounds id none) rest).bind
      fun taken => some ((slot.map fun d => (tag, d)).toList ++ taken)) = _
    rw [hslot, hrest]
    rfl

/-- Every tag gets a descriptor out of its slot, and these descriptors make up the table. -/
theorem Indexed.exists_takeAll_eq (h : c.Indexed) :
    ∃ taken, takeAll (c.descriptors.map some) c.byTag.entries = some taken ∧
      taken.map Prod.fst = c.byTag.keys ∧ c.toTable = .ofList taken := by
  have hfull : ∀ e ∈ c.byTag.entries, ∃ d, c.descriptors[e.2]? = some d := by
    intro e he
    obtain ⟨d, hd, _⟩ := h.exists_descriptor (OrderedMap.get?_eq_some_iff.2 he)
    exact ⟨d, hd⟩
  refine ⟨c.byTag.entries.map fun e => (e.1, (c.descriptors[e.2]?).getD default), ?_, ?_, ?_⟩
  · apply takeAll_eq (f := fun id => (c.descriptors[id]?).getD default) h.nodup_ids
    intro e he
    obtain ⟨d, hd⟩ := hfull e he
    simp [hd]
  · rw [List.map_map]
    rfl
  · unfold toTable
    rw [← List.filterMap_eq_map]
    congr 1
    apply List.filterMap_congr
    intro e he
    obtain ⟨d, hd⟩ := hfull e he
    simp [hd]

end Context

namespace Walk

/-- The states that come about by visits, one after another, each over a vocabulary of its own. -/
inductive Arises : Walk → Prop where
  | start : Arises .start
  | visit {w w' : Walk} {v : Vocabulary} {depth : Nat} {type : TypeName} (before : Arises w)
      (visited : v.visit depth type w = some w') : Arises w'

theorem Arises.indexed {w : Walk} (h : w.Arises) : w.context.Indexed := by
  induction h with
  | start => exact Context.indexed_empty
  | @visit w w' v depth type _ visited ih =>
    exact ih.run (Vocabulary.runs_of_visit depth type w w' visited)

/-- After any visits, types have descriptors of their own, and each tag leads to the last descriptor
with this tag. When the descriptors are taken out of their slots, none is missing and none is asked
for twice. They make up the table: it has an entry for every tag that some descriptor has, and this
is the last descriptor with the tag. -/
theorem Arises.last_wins {w : Walk} (h : w.Arises) :
    (∀ type id, w.context.idOf? type = some id → id < w.context.size) ∧
      (∀ tag id, w.context.tagged? tag = some id → id < w.context.size) ∧
      (∀ type other id, w.context.idOf? type = some id → w.context.idOf? other = some id →
        type = other) ∧
      (∀ tag id, w.context.tagged? tag = some id ↔ IsGreatest (w.context.withTag tag) id) ∧
      (∀ tag, (∃ id, w.context.tagged? tag = some id) ↔ (w.context.withTag tag).Nonempty) ∧
      (∃ taken, Context.takeAll (w.context.descriptors.map some) w.context.byTag.entries =
        some taken ∧ taken.map Prod.fst = w.context.byTag.keys ∧
          w.context.toTable = .ofList taken) ∧
      (∀ tag, tag ∈ w.context.toTable.tags ↔ (w.context.withTag tag).Nonempty) ∧
      ∀ tag d, w.context.toTable.get? tag = some d ↔
        d.tag = some tag ∧
          ∃ id, IsGreatest (w.context.withTag tag) id ∧ w.context.descriptors[id]? = some d := by
  have hindexed := h.indexed
  have hgreatest : ∀ tag id, w.context.tagged? tag = some id ↔
      IsGreatest (w.context.withTag tag) id := fun _ _ => hindexed.tagged?_iff
  refine ⟨fun _ _ => hindexed.lt_size, ?_, fun _ _ _ => hindexed.distinct, hgreatest, ?_,
    hindexed.exists_takeAll_eq, fun _ => hindexed.mem_tags_toTable_iff, ?_⟩
  · intro tag id hid
    exact Context.lt_size_of_mem_withTag ((hgreatest tag id).1 hid).1
  · intro tag
    constructor
    · rintro ⟨id, hid⟩
      exact ⟨id, ((hgreatest tag id).1 hid).1⟩
    · exact hindexed.exists_tagged?
  · intro tag d
    rw [hindexed.get?_toTable_eq_some_iff]
    constructor
    · rintro ⟨id, hid, hd⟩
      obtain ⟨e, he, htag⟩ := hid.1
      rw [hd] at he
      cases he
      exact ⟨htag, id, hid, hd⟩
    · exact And.right

end Walk

namespace Pages

/-- The walk from a page, and then from a node in the same context. -/
def walkOn : Walk := (Items.vocabulary.visit 2 Items.node walk).get (by decide +kernel)

theorem visit_node_after_page : Items.vocabulary.visit 2 Items.node walk = some walkOn :=
  (Option.some_get _).symm

/-- The page has the first descriptor. But its tag is the name of one of its children as well, and
so leads to the third descriptor, which shows the link. -/
theorem last_wins_page_node : walkOn.Arises ∧ walkOn.context.size = 5 ∧
    walkOn.context.idOf? page = some 0 ∧ walkOn.context.tagged? "page" = some 2 ∧
      IsGreatest (walkOn.context.withTag "page") 2 ∧
      (∃ taken, Context.takeAll (walkOn.context.descriptors.map some)
        walkOn.context.byTag.entries = some taken ∧
          taken.map Prod.fst = ["page", "node", "item"] ∧
            walkOn.context.toTable = .ofList taken) ∧
      ∃ d, walkOn.context.toTable.get? "page" = some d ∧ d.attributes.keys = ["href"] ∧
        d.tag = some "page" ∧ ∃ id, IsGreatest (walkOn.context.withTag "page") id ∧
          walkOn.context.descriptors[id]? = some d := by
  have harises : walkOn.Arises := .visit (.visit .start visit_page) visit_node_after_page
  have hlast : walkOn.context.tagged? "page" = some 2 := by decide +kernel
  have hkeys : walkOn.context.byTag.keys = ["page", "node", "item"] := by decide +kernel
  obtain ⟨d, hd, hnames⟩ : ∃ d, walkOn.context.toTable.get? "page" = some d ∧
      d.attributes.keys = ["href"] :=
    Option.map_eq_some_iff.1 (by decide +kernel)
  obtain ⟨_, _, _, hgreatest, _, ⟨taken, htaken, hfst, htable⟩, _, hget⟩ := harises.last_wins
  obtain ⟨htag, hshown⟩ := (hget "page" d).1 hd
  exact ⟨harises, by decide +kernel, by decide +kernel, hlast, (hgreatest "page" 2).1 hlast,
    ⟨taken, htaken, hfst.trans hkeys, htable⟩, d, hd, hnames, htag, hshown⟩

end Pages

end TagGrammar
