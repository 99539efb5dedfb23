import Mathlib.Data.Finset.Basic
import Mathlib.Data.Finset.Lattice.Lemmas
import Mathlib.Data.Finset.Dedup
import TagGrammar.Json.Decoder

/-!
# Records read back

A record is written as an object with its fields in any order. A field that need not come is left
out, or null, or there; each way the members of the object say what the field holds.

What is known of a record after some of its members depends only on their keys, not on their order:
every member adds the part of its own key (`readMembers_eq`). A field that was left out has nothing
to add. So at the end all of the record is known (`decoder_of_fields`).
-/

namespace TagGrammar.Json

/-! ## How fields are written -/

/-- The members that write an optional field under its key: none, a null, or a value. -/
inductive OptionalField {α : Type} (key : String) (writes : α → Json → Prop) :
    Option α → List (String × Json) → Prop where
  | leftOut : OptionalField key writes none []
  | null : OptionalField key writes none [(key, .null)]
  | given {a : α} {j : Json} (h : writes a j) : OptionalField key writes (some a) [(key, j)]

/-- The members that write a list under its key; an empty list may be left out. -/
inductive ListField {α : Type} (key : String) (writes : α → Json → Prop) :
    List α → List (String × Json) → Prop where
  | leftOut : ListField key writes [] []
  | given {as : List α} {items : List Json} (h : List.Forall₂ writes as items) :
      ListField key writes as [(key, .array items)]

/-! ## Decoders of values -/

theorem toDraftItems_eq_map : (items : List Json) → toDraftItems items = items.map toDraft
  | [] => rfl
  | item :: items => by rw [toDraftItems, toDraftItems_eq_map items, List.map_cons]

theorem toDraftMembers_eq_map : (members : List (String × Json)) →
    toDraftMembers members = members.map fun m => (m.1, toDraft m.2)
  | [] => rfl
  | (key, value) :: members => by
    rw [toDraftMembers, toDraftMembers_eq_map members, List.map_cons]

namespace Decoder

variable {α : Type} {decode : Decoder α} {writes : α → Json → Prop}

/-- The decoder takes everything that is written for a value to the value, and nulls do not stand
for values. -/
structure Reads (decode : Decoder α) (writes : α → Json → Prop) : Prop where
  decode_eq : ∀ {a j}, writes a j → decode (toDraft j) = .ok a
  ne_null : ∀ {a j}, writes a j → j ≠ .null

/-- The text is written as a string. -/
def WritesText (s : String) (j : Json) : Prop := j = .string s

theorem reads_text : Reads Decoder.text WritesText where
  decode_eq h := by
    rw [h]
    rfl
  ne_null h := by
    rw [h]
    simp

theorem optional_of_ne_null {j : Json} (h : j ≠ .null) :
    optional decode (toDraft j) = (decode (toDraft j)).map some := by
  cases j with
  | null => exact absurd rfl h
  | _ =>
    simp only [toDraft, optional]
    rfl

theorem Reads.mapM {as : List α} {items : List Json} (h : Reads decode writes)
    (hitems : List.Forall₂ writes as items) : (items.map toDraft).mapM decode = .ok as := by
  induction hitems with
  | nil => rfl
  | cons hitem _ ih =>
    rw [List.map_cons, List.mapM_cons, h.decode_eq hitem, ih]
    rfl

theorem Reads.listOf {as : List α} {items : List Json} (h : Reads decode writes)
    (hitems : List.Forall₂ writes as items) :
    listOf decode (toDraft (.array items)) = .ok as := by
  rw [toDraft, toDraftItems_eq_map, Decoder.listOf, h.mapM hitems]
  rfl

/-- The object has the keys of the entries, in their order, and behind each key what is written for
the value of the entry. -/
def WritesEntries (writes : α → Json → Prop) (entries : List (String × α))
    (members : List (String × Json)) : Prop :=
  List.Forall₂ (fun e m => m.1 = e.1 ∧ writes e.2 m.2) entries members

theorem Reads.entriesOf {entries : List (String × α)} {members : List (String × Json)}
    (h : Reads decode writes) (hmembers : WritesEntries writes entries members) :
    entriesOf decode (toDraft (.object members)) = .ok entries := by
  have hmap : ((members.map fun m => (m.1, toDraft m.2)).mapM fun e => do
      return (e.1, ← decode e.2)) = Except.ok entries := by
    induction hmembers with
    | nil => rfl
    | @cons e m _ _ hm _ ih =>
      obtain ⟨hkey, hvalue⟩ := hm
      rw [List.map_cons, List.mapM_cons, h.decode_eq hvalue, ih, hkey]
      rfl
  rw [toDraft, toDraftMembers_eq_map, Decoder.entriesOf, hmap]
  rfl

end Decoder

/-! ## Records -/

namespace RecordForm

variable {σ α β : Type} {form : RecordForm σ α} {known : Finset String → σ}

/-- Where every member adds the part of its own key, the parts of all keys are known in the end. -/
theorem readMembers_eq {members : List (String × Draft)} {seen : List String}
    (hset : ∀ m ∈ members, m.1 ∈ form.fields ∧ ∀ keys,
      form.set m.1 m.2 (known keys) = .ok (known (insert m.1 keys)))
    (hnodup : (members.map Prod.fst).Nodup) (hnew : ∀ m ∈ members, m.1 ∉ seen) :
    form.readMembers seen members (known seen.toFinset) =
      .ok (known ((members.map Prod.fst).toFinset ∪ seen.toFinset)) := by
  induction members generalizing seen with
  | nil => simp [readMembers]
  | cons m members ih =>
    obtain ⟨key, value⟩ := m
    obtain ⟨⟨hfield, hvalue⟩, hrest⟩ := List.forall_mem_cons.1 hset
    obtain ⟨hkey, hnodup⟩ := List.nodup_cons.1 hnodup
    obtain ⟨hseen, hnew⟩ := List.forall_mem_cons.1 hnew
    have hlater : ∀ m ∈ members, m.1 ∉ key :: seen := by
      intro m hm hmem
      rcases List.mem_cons.1 hmem with heq | hmem
      · exact hkey (List.mem_map.2 ⟨m, hm, heq⟩)
      · exact hnew m hm hmem
    have hothers := ih hrest hnodup hlater
    rw [List.toFinset_cons] at hothers
    rw [readMembers, if_neg (not_not.2 hfield), if_neg hseen, hvalue]
    show form.readMembers (key :: seen) members (known (insert key seen.toFinset)) = _
    rw [hothers, List.map_cons, List.toFinset_cons, Finset.insert_union, Finset.union_insert]

/-- The members write one field: there is at most one of them, and it makes the part of its key
known. If there is none, then nothing is to be known of this part. -/
structure WritesField (form : RecordForm σ α) (known : Finset String → σ) (key : String)
    (members : List (String × Json)) : Prop where
  mem : key ∈ form.fields
  keys : (members.map Prod.fst).Sublist [key]
  set : ∀ m ∈ members, ∀ keys,
    form.set key (toDraft m.2) (known keys) = .ok (known (insert key keys))
  leftOut : members = [] → ∀ keys, known (insert key keys) = known keys

namespace WritesField

variable {key : String} {members : List (String × Json)}

theorem eq_key {m : String × Json} (h : form.WritesField known key members) (hm : m ∈ members) :
    m.1 = key :=
  List.mem_singleton.1 (h.keys.subset (List.mem_map_of_mem hm))

theorem required {j : Json} (mem : key ∈ form.fields)
    (hset : ∀ keys, form.set key (toDraft j) (known keys) = .ok (known (insert key keys))) :
    form.WritesField known key [(key, j)] where
  mem := mem
  keys := List.Sublist.refl _
  set m hm := by
    rw [List.mem_singleton.1 hm]
    exact hset
  leftOut h := by cases h

theorem optional {decode : Decoder β} {writes : β → Json → Prop} {b : Option β}
    (h : OptionalField key writes b members) (hreads : decode.Reads writes)
    (mem : key ∈ form.fields)
    (hset : ∀ d keys, Decoder.optional decode d = .ok b →
      form.set key d (known keys) = .ok (known (insert key keys)))
    (hnone : b = none → ∀ keys, known (insert key keys) = known keys) :
    form.WritesField known key members := by
  cases h with
  | leftOut => exact ⟨mem, List.nil_sublist _, by simp, fun _ => hnone rfl⟩
  | null => exact .required mem fun keys => hset _ keys rfl
  | given hwrites =>
    refine .required mem fun keys => hset _ keys ?_
    rw [Decoder.optional_of_ne_null (hreads.ne_null hwrites), hreads.decode_eq hwrites]
    rfl

theorem list {decode : Decoder β} {writes : β → Json → Prop} {bs : List β}
    (h : ListField key writes bs members) (hreads : decode.Reads writes)
    (mem : key ∈ form.fields)
    (hset : ∀ d keys, Decoder.listOf decode d = .ok bs →
      form.set key d (known keys) = .ok (known (insert key keys)))
    (hnil : bs = [] → ∀ keys, known (insert key keys) = known keys) :
    form.WritesField known key members := by
  cases h with
  | leftOut => exact ⟨mem, List.nil_sublist _, by simp, fun _ => hnil rfl⟩
  | given hitems => exact .required mem fun keys => hset _ keys (hreads.listOf hitems)

end WritesField

/-- The keys of the fields that are written are among the fields, in their order. -/
theorem sublist_keys_flatMap {parts : List (String × List (String × Json))}
    (h : ∀ p ∈ parts, form.WritesField known p.1 p.2) :
    ((parts.flatMap Prod.snd).map Prod.fst).Sublist (parts.map Prod.fst) := by
  induction parts with
  | nil => exact List.Sublist.refl _
  | cons p parts ih =>
    obtain ⟨hp, hparts⟩ := List.forall_mem_cons.1 h
    rw [List.flatMap_cons, List.map_append, List.map_cons, ← List.singleton_append]
    exact hp.keys.append (ih hparts)

/-- Fields that were left out have nothing to add. -/
theorem known_union_eq {keys : Finset String} (leftOut : Finset String)
    (h : ∀ key ∈ leftOut, ∀ keys, known (insert key keys) = known keys) :
    known (leftOut ∪ keys) = known keys := by
  induction leftOut using Finset.induction_on with
  | empty => rw [Finset.empty_union]
  | insert key leftOut _ ih =>
    rw [Finset.insert_union, h key (Finset.mem_insert_self key leftOut)]
    exact ih fun k hk => h k (Finset.mem_insert_of_mem hk)

/-- A record is read back from its fields in any order, provided that each of them makes its own
part known, and that the record can be put together from all parts. -/
theorem decoder_of_fields {a : α} (known : Finset String → σ)
    (parts : List (String × List (String × Json))) {members : List (String × Json)}
    (hparts : ∀ p ∈ parts, form.WritesField known p.1 p.2)
    (hnodup : (parts.map Prod.fst).Nodup) (hperm : members.Perm (parts.flatMap Prod.snd))
    (hstart : form.start = known ∅)
    (hfinish : form.finish (known (parts.map Prod.fst).toFinset) = .ok a) :
    form.decoder (toDraft (.object members)) = .ok a := by
  have hsublist := sublist_keys_flatMap hparts
  have hkeys : (members.map Prod.fst).Nodup :=
    (hperm.map Prod.fst).nodup_iff.2 (hsublist.nodup hnodup)
  have hset : ∀ m ∈ members, m.1 ∈ form.fields ∧ ∀ keys,
      form.set m.1 (toDraft m.2) (known keys) = .ok (known (insert m.1 keys)) := by
    intro m hm
    obtain ⟨p, hp, hmem⟩ := List.mem_flatMap.1 (hperm.mem_iff.1 hm)
    rw [(hparts p hp).eq_key hmem]
    exact ⟨(hparts p hp).mem, (hparts p hp).set m hmem⟩
  -- whatever field has no member was left out
  have hleftOut : ∀ key ∈ (parts.map Prod.fst).toFinset \ (members.map Prod.fst).toFinset, ∀ keys,
      known (insert key keys) = known keys := by
    intro key hkey
    rw [Finset.mem_sdiff, List.mem_toFinset, List.mem_toFinset] at hkey
    obtain ⟨⟨p, hp, rfl⟩, hnot⟩ := And.imp_left List.mem_map.1 hkey
    apply (hparts p hp).leftOut
    apply List.eq_nil_iff_forall_not_mem.2
    intro m hm
    have hmem : m ∈ members := hperm.mem_iff.2 (List.mem_flatMap.2 ⟨p, hp, hm⟩)
    exact hnot ((hparts p hp).eq_key hm ▸ List.mem_map_of_mem hmem)
  have hall : known (members.map Prod.fst).toFinset = known (parts.map Prod.fst).toFinset := by
    rw [← known_union_eq _ hleftOut, Finset.sdiff_union_of_subset]
    intro key hkey
    rw [List.mem_toFinset] at hkey ⊢
    exact hsublist.subset ((hperm.map Prod.fst).mem_iff.1 hkey)
  have hread : form.readMembers [] (toDraftMembers members) (known ∅) =
      .ok (known (parts.map Prod.fst).toFinset) := by
    have hmap : (toDraftMembers members).map Prod.fst = members.map Prod.fst := by
      rw [toDraftMembers_eq_map, List.map_map]
      rfl
    rw [← hall, ← hmap, ← Finset.union_empty (List.toFinset _)]
    apply readMembers_eq
    · intro d hd
      rw [toDraftMembers_eq_map] at hd
      obtain ⟨m, hm, rfl⟩ := List.mem_map.1 hd
      exact hset m hm
    · rw [hmap]
      exact hkeys
    · simp
  rw [toDraft, decoder, hstart, hread]
  show form.finish _ = _
  exact hfinish

end RecordForm

end TagGrammar.Json
