import Mathlib.Data.List.Nodup
import TagGrammar.Proofs.Json.Acceptance
import TagGrammar.Schema.TypeDecoder

/-!
# Kinds of declared types

The kind of a declared type stands in one of its members, wherever that comes among them, and says
which other members there may be. The members are read twice: first for the kind alone, and then,
without it, for the rest (`ofValue_object_eq_ok`). The outermost type is decoded from its draft, but
what it accepts is accepted of a type within another one, too (`ofValue_of_decoder`).

All kinds have some field, or may have one, except for booleans. Of a boolean the rest is not read
at all (`ofValue_of_isBoolean`, `decoder_of_boolean`).
-/

namespace TagGrammar.DeclaredType

open Json

/-! ## Kinds -/

namespace Kind

/-- The words for the kinds and, within other types, their numbers. -/
inductive NamedBy : Kind → Json → Prop where
  | word {kind : Kind} {word : String} (h : (word, kind) ∈ words) : NamedBy kind (.string word)
  | index {kind : Kind} {word : String} {i : Nat} (h : words[i]? = some (word, kind)) :
      NamedBy kind (.number (.integer i))

theorem ofWord_eq_ok_iff {word : String} {kind : Kind} :
    ofWord word = .ok kind ↔ (word, kind) ∈ words := by
  have hlookup : words.lookup word = some kind ↔ (word, kind) ∈ words := by
    constructor
    · intro h
      obtain ⟨before, after, hwords, _⟩ := List.lookup_eq_some_iff.1 h
      rw [hwords]
      exact List.mem_append_right _ List.mem_cons_self
    · intro h
      simp only [words, List.mem_cons, Prod.mk.injEq, List.not_mem_nil, or_false] at h
      rcases h with ⟨rfl, rfl⟩ | ⟨rfl, rfl⟩ | ⟨rfl, rfl⟩ | ⟨rfl, rfl⟩ | ⟨rfl, rfl⟩ <;> rfl
  rw [← hlookup, ofWord]
  cases words.lookup word with
  | some found => simp
  | none => simp [reject]

theorem ofValue_eq_ok_iff {kind : Kind} {j : Json} : ofValue j = .ok kind ↔ kind.NamedBy j := by
  constructor
  · intro h
    cases j with
    | string word => exact .word (ofWord_eq_ok_iff.1 h)
    | number n =>
      cases n with
      | integer i =>
        rw [ofValue] at h
        split at h
        · cases h
        · next hi =>
          split at h
          · next word found hfound =>
            cases h
            have hnat : i = (i.toNat : Int) := (Int.toNat_of_nonneg (Int.not_lt.1 hi)).symm
            rw [hnat]
            exact .index hfound
          · cases h
      | real => cases h
    | _ => cases h
  · intro h
    cases h with
    | word h => exact ofWord_eq_ok_iff.2 h
    | @index word i h =>
      rw [ofValue, if_neg (by simp), Int.toNat_natCast, h]

/-- A value names at most one kind. -/
theorem NamedBy.unique {kind kind' : Kind} {j : Json} (h : kind.NamedBy j)
    (h' : kind'.NamedBy j) : kind = kind' := by
  rw [← ofValue_eq_ok_iff] at h h'
  exact Except.ok.inj (h.symm.trans h')

/-- The kind of the outermost type is a word. -/
theorem ofDraft_eq_ok {kind : Kind} {d : Draft} (h : ofDraft d = .ok kind) :
    ∃ word, d = .string word ∧ (word, kind) ∈ words := by
  cases d with
  | string word => exact ⟨word, rfl, ofWord_eq_ok_iff.1 h⟩
  | _ => exact absurd h (expect_ne_ok _ _ _)

/-- The key of the field that a type of the kind has, or may have. -/
def field? : Kind → Option String
  | .plain .boolean => none
  | .plain .enumeration => some "name"
  | .plain .scalar => some "name"
  | .plain .element => some "type"
  | .list => some "item"

/-- The keys that a type of the kind may have. -/
def keys (kind : Kind) : List String := kindKey :: kind.field?.toList

theorem nodup_keys (kind : Kind) : kind.keys.Nodup := by
  cases kind with
  | list => decide
  | plain kind => cases kind <;> decide

end Kind

/-! ## Members -/

/-- The members that should name the kind. -/
def kindMembers {α : Type} (members : List (String × α)) : List (String × α) :=
  members.filter fun m => m.1 = kindKey

/-- The other members. -/
def otherMembers {α : Type} (members : List (String × α)) : List (String × α) :=
  members.filter fun m => m.1 ≠ kindKey

section Members

variable {α : Type} {members : List (String × α)} {key : String} {value : α}

@[simp] theorem kindMembers_cons_kind :
    kindMembers ((kindKey, value) :: members) = (kindKey, value) :: kindMembers members := by
  simp [kindMembers]

@[simp] theorem otherMembers_cons_kind :
    otherMembers ((kindKey, value) :: members) = otherMembers members := by
  simp [otherMembers]

theorem kindMembers_cons_of_ne (h : key ≠ kindKey) :
    kindMembers ((key, value) :: members) = kindMembers members := by
  simp [kindMembers, h]

theorem otherMembers_cons_of_ne (h : key ≠ kindKey) :
    otherMembers ((key, value) :: members) = (key, value) :: otherMembers members := by
  simp [otherMembers, h]

theorem otherMembers_perm (members : List (String × α)) :
    (kindMembers members ++ otherMembers members).Perm members := by
  simpa [kindMembers, otherMembers] using List.filter_append_perm (fun m => m.1 = kindKey) members

end Members

/-- A member with another key is put aside. -/
theorem splitKind_cons_of_ne {kind found : Option Kind} {key : String} {value : Json}
    {members others : List (String × Json)} (hkey : key ≠ kindKey) :
    splitKind Kind.ofValue .ok kind ((key, value) :: members) = .ok (found, others) ↔
      ∃ others', splitKind Kind.ofValue .ok kind members = .ok (found, others') ∧
        others = (key, value) :: others' := by
  rw [splitKind, if_neg hkey, ok_bind, bind_eq_ok_iff]
  constructor
  · rintro ⟨⟨found', others'⟩, hrest, h⟩
    cases h
    exact ⟨others', hrest, rfl⟩
  · rintro ⟨others', hrest, rfl⟩
    exact ⟨(found, others'), hrest, rfl⟩

/-- Once the kind is known, no other member may name one. -/
theorem splitKind_some_iff {kind : Kind} {found : Option Kind}
    {members others : List (String × Json)} :
    splitKind Kind.ofValue .ok (some kind) members = .ok (found, others) ↔
      kindMembers members = [] ∧ found = some kind ∧ others = otherMembers members := by
  induction members generalizing found others with
  | nil => simp [splitKind, kindMembers, otherMembers, eq_comm]
  | cons m members ih =>
    obtain ⟨key, value⟩ := m
    by_cases hkey : key = kindKey
    · subst hkey
      rw [splitKind, if_pos rfl, kindMembers_cons_kind]
      simp [reject]
    · rw [splitKind_cons_of_ne hkey, kindMembers_cons_of_ne hkey, otherMembers_cons_of_ne hkey]
      simp only [ih]
      constructor
      · rintro ⟨_, ⟨hnone, hfound, rfl⟩, rfl⟩
        exact ⟨hnone, hfound, rfl⟩
      · rintro ⟨hnone, hfound, rfl⟩
        exact ⟨_, ⟨hnone, hfound, rfl⟩, rfl⟩

/-- The members are split into the one that names the kind and the others. -/
theorem splitKind_none_iff {kind : Kind} {members others : List (String × Json)} :
    splitKind Kind.ofValue .ok none members = .ok (some kind, others) ↔
      (∃ value, kindMembers members = [(kindKey, value)] ∧ kind.NamedBy value) ∧
        others = otherMembers members := by
  induction members generalizing others with
  | nil => simp [splitKind, kindMembers]
  | cons m members ih =>
    obtain ⟨key, value⟩ := m
    by_cases hkey : key = kindKey
    · -- this is the one member that names the kind, and the rest is split with the kind known
      subst hkey
      rw [splitKind, if_pos rfl, kindMembers_cons_kind, otherMembers_cons_kind]
      simp only [Option.isSome_none, Bool.false_eq_true, if_false, bind_eq_ok_iff,
        splitKind_some_iff, Kind.ofValue_eq_ok_iff]
      constructor
      · rintro ⟨found, hnamed, hnone, hfound, hothers⟩
        cases hfound
        exact ⟨⟨value, by rw [hnone], hnamed⟩, hothers⟩
      · rintro ⟨⟨named, hone, hnamed⟩, hothers⟩
        obtain ⟨heq, hnone⟩ := List.cons_eq_cons.1 hone
        cases heq
        exact ⟨kind, hnamed, hnone, rfl, hothers⟩
    · rw [splitKind_cons_of_ne hkey, kindMembers_cons_of_ne hkey, otherMembers_cons_of_ne hkey]
      simp only [ih]
      constructor
      · rintro ⟨_, ⟨hone, rfl⟩, rfl⟩
        exact ⟨hone, rfl⟩
      · rintro ⟨hone, rfl⟩
        exact ⟨_, ⟨hone, rfl⟩, rfl⟩

/-! ## Fields -/

section Fields

variable {members : List (String × Json)} {field s : String} {type : DeclaredType}

theorem textOf_eq_ok_iff {j : Json} : textOf j = .ok s ↔ j = .string s := by
  cases j with
  | string found => simp [textOf]
  | _ => simp [textOf, expectValue, reject]

theorem nothingAfter_eq_ok_iff :
    nothingAfter field members = .ok () ↔ otherMembers members = [] := by
  induction members with
  | nil => simp [nothingAfter, otherMembers]
  | cons m members ih =>
    obtain ⟨key, value⟩ := m
    rw [nothingAfter]
    by_cases hkey : key = kindKey
    · rw [if_pos hkey, ih, hkey, otherMembers_cons_kind]
    · rw [if_neg hkey, otherMembers_cons_of_ne hkey]
      split
      · simp [reject]
      · simp [reject]

theorem textField_eq_ok_iff (hfield : field ≠ kindKey) :
    textField field members = .ok s ↔ otherMembers members = [(field, .string s)] := by
  induction members with
  | nil => simp [textField, otherMembers, reject]
  | cons m members ih =>
    obtain ⟨key, value⟩ := m
    rw [textField]
    by_cases hkey : key = kindKey
    · rw [if_pos hkey, ih, hkey, otherMembers_cons_kind]
    · rw [if_neg hkey, otherMembers_cons_of_ne hkey]
      by_cases hsame : key = field
      · subst hsame
        rw [if_pos rfl, bind_eq_ok_iff]
        constructor
        · rintro ⟨found, hfound, h⟩
          obtain ⟨_, hafter, h⟩ := bind_eq_ok_iff.1 h
          cases h
          rw [textOf_eq_ok_iff.1 hfound, nothingAfter_eq_ok_iff.1 hafter]
        · intro h
          obtain ⟨heq, hnone⟩ := List.cons_eq_cons.1 h
          cases heq
          refine ⟨s, rfl, ?_⟩
          rw [nothingAfter_eq_ok_iff.2 hnone]
          rfl
      · rw [if_neg hsame]
        simp [reject, hsame]

/-- The type of an item, which may be null. -/
def itemType (j : Json) : Except JsonFault DeclaredType :=
  if j.isNull then .ok .erasedList else (ofValue j).map .list

theorem listOfMembers_cons_item (item : Json) (members : List (String × Json)) :
    listOfMembers (("item", item) :: members) = do
      let type ← itemType item
      nothingAfter "item" members
      return type := by
  rw [listOfMembers, if_neg (by decide), if_pos rfl, itemType]
  split
  · rfl
  · rfl

theorem listOfMembers_eq_ok_iff : listOfMembers members = .ok type ↔
    otherMembers members = [] ∧ type = .erasedList ∨
      ∃ item, otherMembers members = [("item", item)] ∧ itemType item = .ok type := by
  induction members with
  | nil => simp [listOfMembers, otherMembers, eq_comm]
  | cons m members ih =>
    obtain ⟨key, value⟩ := m
    by_cases hkey : key = kindKey
    · rw [listOfMembers, if_pos hkey, ih, hkey, otherMembers_cons_kind]
    · rw [otherMembers_cons_of_ne hkey]
      by_cases hsame : key = "item"
      · subst hsame
        rw [listOfMembers_cons_item, bind_eq_ok_iff]
        constructor
        · rintro ⟨found, hfound, h⟩
          obtain ⟨_, hafter, h⟩ := bind_eq_ok_iff.1 h
          cases h
          exact .inr ⟨value, by rw [nothingAfter_eq_ok_iff.1 hafter], hfound⟩
        · rintro (⟨h, _⟩ | ⟨item, h, hitem⟩)
          · cases h
          · obtain ⟨heq, hnone⟩ := List.cons_eq_cons.1 h
            cases heq
            refine ⟨type, hitem, ?_⟩
            rw [nothingAfter_eq_ok_iff.2 hnone]
            rfl
      · rw [listOfMembers, if_neg hkey, if_neg hsame]
        simp [reject, hsame]

end Fields

/-! ## Objects -/

/-- The type of a kind whose fields are among the members. -/
def ofMembers (kind : Kind) (members : List (String × Json)) : Except JsonFault DeclaredType :=
  match kind with
  | .plain kind => plainOfMembers kind members
  | .list => listOfMembers members

section Objects

variable {kind : Kind} {members : List (String × Json)} {type : DeclaredType}

theorem otherMembers_otherMembers (members : List (String × Json)) :
    otherMembers (otherMembers members) = otherMembers members := by
  simp [otherMembers]

/-- The members that name the kind are passed over. -/
theorem ofMembers_otherMembers_eq_ok_iff :
    ofMembers kind (otherMembers members) = .ok type ↔ ofMembers kind members = .ok type := by
  have htext : ∀ {field s : String}, field ≠ kindKey →
      (textField field (otherMembers members) = .ok s ↔ textField field members = .ok s) := by
    intro field s hfield
    rw [textField_eq_ok_iff hfield, textField_eq_ok_iff hfield, otherMembers_otherMembers]
  cases kind with
  | list =>
    unfold ofMembers
    simp only [listOfMembers_eq_ok_iff, otherMembers_otherMembers]
  | plain kind =>
    cases kind with
    | boolean => exact Iff.rfl
    | _ =>
      simp only [ofMembers, plainOfMembers, bind_eq_ok_iff]
      rw [exists_congr fun s => and_congr_left' (htext (by decide))]

theorem ofValue_object_eq_ok_iff : ofValue (.object members) = .ok type ↔
    ∃ kind value, kindMembers members = [(kindKey, value)] ∧ kind.NamedBy value ∧
      ofMembers kind members = .ok type := by
  rw [ofValue, bind_eq_ok_iff]
  constructor
  · rintro ⟨⟨found, others⟩, hsplit, h⟩
    cases found with
    | none => cases h
    | some kind =>
      obtain ⟨⟨value, hone, hnamed⟩, _⟩ := splitKind_none_iff.1 hsplit
      refine ⟨kind, value, hone, hnamed, ?_⟩
      cases kind with
      | plain kind => exact h
      | list => exact h
  · rintro ⟨kind, value, hone, hnamed, h⟩
    refine ⟨_, splitKind_none_iff.2 ⟨⟨value, hone, hnamed⟩, rfl⟩, ?_⟩
    cases kind with
    | plain kind => exact h
    | list => exact h

end Objects

/-! ## Arrays -/

/-- The type of a kind whose field is the one item. -/
def ofItems (kind : Kind) (items : List Json) : Except JsonFault DeclaredType :=
  match kind with
  | .plain kind => plainOfItems kind items
  | .list => listOfItems items

theorem ofValue_array_eq_ok_iff {items : List Json} {type : DeclaredType} :
    ofValue (.array items) = .ok type ↔
      ∃ kind value rest, items = value :: rest ∧ kind.NamedBy value ∧
        ofItems kind rest = .ok type := by
  cases items with
  | nil => simp [ofValue, reject]
  | cons value rest =>
    rw [ofValue, bind_eq_ok_iff]
    simp only [Kind.ofValue_eq_ok_iff]
    constructor
    · rintro ⟨kind, hnamed, h⟩
      refine ⟨kind, value, rest, rfl, hnamed, ?_⟩
      cases kind with
      | plain kind => exact h
      | list => exact h
    · rintro ⟨kind, value, rest, heq, hnamed, h⟩
      cases heq
      refine ⟨kind, hnamed, ?_⟩
      cases kind with
      | plain kind => exact h
      | list => exact h

theorem of_listOfItems {items : List Json} {type : DeclaredType}
    (h : listOfItems items = .ok type) :
    items = [] ∨ ∃ item, items = [item] ∧ itemType item = .ok type := by
  cases items with
  | nil => exact .inl rfl
  | cons item rest =>
    have hlist : listOfItems (item :: rest) = do
        let type ← itemType item
        noMoreItems rest
        return type := by
      rw [listOfItems, itemType]
      split
      · rfl
      · rfl
    rw [hlist] at h
    obtain ⟨found, hfound, h⟩ := bind_eq_ok_iff.1 h
    obtain ⟨_, hrest, h⟩ := bind_eq_ok_iff.1 h
    cases h
    have hnil : rest = [] := by
      unfold noMoreItems at hrest
      split at hrest
      · next hempty => exact List.isEmpty_iff.1 hempty
      · cases hrest
    exact .inr ⟨item, by rw [hnil], hfound⟩

/-! ## The outermost type -/

theorem exists_values_of_splitKind {kind found : Option Kind} {members : List (String × Draft)}
    {others : List (String × Json)}
    (h : splitKind Kind.ofDraft (inText ·.whole) kind members = .ok (found, others)) :
    ∃ values, members = toDraftMembers values ∧
      splitKind Kind.ofValue .ok kind values = .ok (found, others) := by
  induction members generalizing kind others with
  | nil => exact ⟨[], rfl, h⟩
  | cons m members ih =>
    obtain ⟨key, d⟩ := m
    rw [splitKind] at h
    split at h
    · next hkey =>
      split at h
      · cases h
      · next hnone =>
        obtain ⟨named, hnamed, hrest⟩ := bind_eq_ok_iff.1 h
        obtain ⟨word, rfl, hword⟩ := Kind.ofDraft_eq_ok hnamed
        obtain ⟨values, rfl, hvalues⟩ := ih hrest
        refine ⟨(key, .string word) :: values, rfl, ?_⟩
        rw [splitKind, if_pos hkey, if_neg hnone, Kind.ofValue_eq_ok_iff.2 (.word hword)]
        exact hvalues
    · next hkey =>
      obtain ⟨value, hvalue, h⟩ := bind_eq_ok_iff.1 h
      obtain ⟨⟨found', others'⟩, hrest, h⟩ := bind_eq_ok_iff.1 h
      cases h
      obtain ⟨values, rfl, hvalues⟩ := ih hrest
      refine ⟨(key, value) :: values, ?_, ?_⟩
      · rw [toDraftMembers, eq_toDraft_of_whole (inText_eq_ok_iff.1 hvalue)]
      · rw [splitKind, if_neg hkey, ok_bind, hvalues]
        rfl

/-- The outermost type is split in the same way if its kind is a word. -/
theorem splitKind_toDraftMembers {kind : Option Kind} {members : List (String × Json)}
    (h : ∀ m ∈ kindMembers members, ∃ word, m.2 = .string word) :
    splitKind Kind.ofDraft (inText ·.whole) kind (toDraftMembers members) =
      splitKind Kind.ofValue .ok kind members := by
  induction members generalizing kind with
  | nil => rfl
  | cons m members ih =>
    obtain ⟨key, value⟩ := m
    rw [toDraftMembers, splitKind, splitKind]
    by_cases hkey : key = kindKey
    · subst hkey
      rw [kindMembers_cons_kind, List.forall_mem_cons] at h
      obtain ⟨⟨word, rfl⟩, hrest⟩ := h
      rw [if_pos rfl, if_pos rfl]
      simp only [ih hrest]
      rfl
    · rw [kindMembers_cons_of_ne hkey] at h
      rw [if_neg hkey, if_neg hkey, whole_toDraft, ih h]
      rfl

/-- What is accepted as an outermost type has no fault, and would be accepted within another type,
too. -/
theorem exists_of_decoder {d : Draft} {type : DeclaredType} (h : decoder d = .ok type) :
    ∃ j, d = toDraft j ∧ ofValue j = .ok type := by
  cases d with
  | object members ending =>
    obtain ⟨⟨found, others⟩, hsplit, h⟩ := bind_eq_ok_iff.1 h
    obtain ⟨_, hending, h⟩ := bind_eq_ok_iff.1 h
    rw [ending.eq_closed_of_check (inText_eq_ok_iff.1 hending)]
    obtain ⟨values, rfl, hvalues⟩ := exists_values_of_splitKind hsplit
    refine ⟨.object values, by rw [toDraft], ?_⟩
    cases found with
    | none => cases h
    | some kind =>
      obtain ⟨⟨value, hone, hnamed⟩, rfl⟩ := splitKind_none_iff.1 hvalues
      have hmembers : ofMembers kind (otherMembers values) = .ok type := by
        cases kind with
        | plain kind => exact h
        | list => exact h
      rw [ofMembers_otherMembers_eq_ok_iff] at hmembers
      exact ofValue_object_eq_ok_iff.2 ⟨kind, value, hone, hnamed, hmembers⟩
  | array items ending =>
    cases items with
    | nil =>
      obtain ⟨_, _, h⟩ := bind_eq_ok_iff.1 h
      cases h
    | cons item items =>
      obtain ⟨kind, hkind, h⟩ := bind_eq_ok_iff.1 h
      obtain ⟨values, hvalues, h⟩ := bind_eq_ok_iff.1 h
      obtain ⟨_, hending, h⟩ := bind_eq_ok_iff.1 h
      rw [ending.eq_closed_of_check (inText_eq_ok_iff.1 hending)]
      obtain ⟨word, rfl, hword⟩ := Kind.ofDraft_eq_ok hkind
      rw [eq_toDraftItems_of_whole (inText_eq_ok_iff.1 hvalues)]
      refine ⟨.array (.string word :: values), by rw [toDraft, toDraftItems, toDraft], ?_⟩
      have hitems : ofItems kind values = .ok type := by
        cases kind with
        | plain kind => exact h
        | list => exact h
      exact ofValue_array_eq_ok_iff.2 ⟨kind, _, values, rfl, .word hword, hitems⟩
  | tooDeep kind => cases h
  | _ => exact absurd h (expect_ne_ok _ _ _)

/-! ## Keys -/

section Keys

variable {kind : Kind} {members : List (String × Json)} {type : DeclaredType}

/-- The one member that names the kind says that the type is boolean. -/
def IsBoolean (members : List (String × Json)) : Prop :=
  ∃ value, kindMembers members = [(kindKey, value)] ∧ Kind.NamedBy (.plain .boolean) value

theorem not_isBoolean {value : Json} (hone : kindMembers members = [(kindKey, value)])
    (hnamed : kind.NamedBy value) (hkind : kind ≠ .plain .boolean) : ¬ IsBoolean members := by
  rintro ⟨value', hone', hboolean⟩
  rw [hone] at hone'
  cases hone'
  exact hkind (hnamed.unique hboolean)

/-- Whatever the other members are, the type is boolean. -/
theorem ofValue_of_isBoolean (h : IsBoolean members) :
    ofValue (.object members) = .ok .boolean := by
  obtain ⟨value, hone, hnamed⟩ := h
  exact ofValue_object_eq_ok_iff.2 ⟨_, value, hone, hnamed, rfl⟩

/-- The same holds of the outermost type, where the kind is a word. -/
theorem decoder_of_boolean (hone : kindMembers members = [(kindKey, .string "boolean")]) :
    decoder (toDraft (.object members)) = .ok .boolean := by
  have hword : ∀ m ∈ kindMembers members, ∃ word, m.2 = .string word := by
    intro m hm
    rw [hone, List.mem_singleton] at hm
    exact ⟨"boolean", by rw [hm]⟩
  have hnamed : Kind.NamedBy (.plain .boolean) (.string "boolean") := .word (by decide)
  have hsplit := splitKind_none_iff.2 ⟨⟨_, hone, hnamed⟩, rfl⟩
  rw [toDraft, decoder, splitKind_toDraftMembers hword, hsplit]
  rfl

/-- Unless the type is boolean, the other members are at most the one field. -/
theorem keys_otherMembers_sublist (hkind : kind ≠ .plain .boolean)
    (h : ofMembers kind members = .ok type) :
    ((otherMembers members).map Prod.fst).Sublist kind.field?.toList := by
  have htext : ∀ {field s : String}, field ≠ kindKey → textField field members = .ok s →
      (otherMembers members).map Prod.fst = [field] := by
    intro field s hfield h
    rw [(textField_eq_ok_iff hfield).1 h]
    rfl
  cases kind with
  | list =>
    rcases listOfMembers_eq_ok_iff.1 h with ⟨hnone, _⟩ | ⟨item, hone, _⟩
    · rw [hnone]
      exact List.nil_sublist _
    · rw [hone]
      exact List.Sublist.refl _
  | plain kind =>
    cases kind with
    | boolean => exact absurd rfl hkind
    | _ =>
      obtain ⟨s, hs, _⟩ := bind_eq_ok_iff.1 h
      rw [htext (by decide) hs]
      exact List.Sublist.refl _

/-- An object that is accepted as a type names one kind. Unless that is boolean, it has no keys but
the declared ones, and none of them twice. -/
theorem keysAmong_of_ofValue (h : ofValue (.object members) = .ok type) :
    (∃ (kind : Kind) (value : Json), (kindKey, value) ∈ members ∧ kind.NamedBy value ∧
      KeysAmong kind.keys members) ∨ IsBoolean members := by
  obtain ⟨kind, value, hone, hnamed, h⟩ := ofValue_object_eq_ok_iff.1 h
  by_cases hkind : kind = .plain .boolean
  · subst hkind
    exact .inr ⟨value, hone, hnamed⟩
  · have hperm := (otherMembers_perm members).map Prod.fst
    rw [hone, List.singleton_append, List.map_cons] at hperm
    have hkeys : (kindKey :: (otherMembers members).map Prod.fst).Sublist kind.keys :=
      (keys_otherMembers_sublist hkind h).cons_cons kindKey
    refine .inl ⟨kind, value, ?_, hnamed, hperm.nodup_iff.1 (hkeys.nodup kind.nodup_keys), ?_⟩
    · have hmem : (kindKey, value) ∈ kindMembers members := by
        rw [hone]
        exact List.mem_cons_self
      exact List.mem_of_mem_filter hmem
    · intro m hm
      exact hkeys.subset (hperm.mem_iff.2 (List.mem_map_of_mem hm))

end Keys

/-! ## Items -/

/-- An item that is not null is accepted as a type. -/
theorem exists_ofValue_of_itemType {item : Json} {type : DeclaredType}
    (h : itemType item = .ok type) (hitem : item ≠ .null) : ∃ type', ofValue item = .ok type' := by
  unfold itemType at h
  split at h
  · next hnull =>
    cases item with
    | null => exact absurd rfl hitem
    | _ => cases hnull
  · cases hvalue : ofValue item with
    | ok type' => exact ⟨type', rfl⟩
    | error fault =>
      rw [hvalue] at h
      cases h

/-- The item of a list that is accepted as a type is accepted as a type, too. -/
theorem exists_ofValue_of_item {j value item : Json} {type : DeclaredType}
    (h : ofValue j = .ok type) (hvalue : (kindKey, value) ∈ j.parts Kind.list.keys)
    (hnamed : Kind.list.NamedBy value) (hpart : ("item", item) ∈ j.parts Kind.list.keys)
    (hitem : item ≠ .null) : ∃ type', ofValue item = .ok type' := by
  cases j with
  | object members =>
    obtain ⟨kind, named, hone, hkind, h⟩ := ofValue_object_eq_ok_iff.1 h
    have hmem : (kindKey, value) ∈ kindMembers members := List.mem_filter.2 ⟨hvalue, by simp⟩
    rw [hone, List.mem_singleton] at hmem
    cases hmem
    cases hkind.unique hnamed
    have hother : ("item", item) ∈ otherMembers members :=
      List.mem_filter.2 ⟨hpart, by simp [kindKey]⟩
    rcases listOfMembers_eq_ok_iff.1 h with ⟨hnone, _⟩ | ⟨found, hfound, htype⟩
    · rw [hnone] at hother
      cases hother
    · rw [hfound, List.mem_singleton] at hother
      cases hother
      exact exists_ofValue_of_itemType htype hitem
  | array items =>
    obtain ⟨kind, named, rest, rfl, hkind, h⟩ := ofValue_array_eq_ok_iff.1 h
    have hparts : (Json.array (named :: rest)).parts Kind.list.keys =
        (kindKey, named) :: ["item"].zip rest := rfl
    rw [hparts, List.mem_cons] at hvalue hpart
    have hsame : value = named := by
      rcases hvalue with heq | hmem
      · cases heq
        rfl
      · exact absurd (List.of_mem_zip hmem).1 (by decide)
    subst hsame
    cases hkind.unique hnamed
    have hrest : ("item", item) ∈ ["item"].zip rest := by
      rcases hpart with heq | hmem
      · have hkey : "item" = kindKey := congrArg Prod.fst heq
        exact absurd hkey (by decide)
      · exact hmem
    rcases of_listOfItems h with rfl | ⟨found, rfl, htype⟩
    · cases hrest
    · cases List.mem_singleton.1 hrest
      exact exists_ofValue_of_itemType htype hitem
  | _ => cases hvalue

end TagGrammar.DeclaredType
