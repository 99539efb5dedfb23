import Mathlib.Data.Set.List
import TagGrammar.Proofs.DocumentValue
import TagGrammar.Proofs.Schema.ReadBack

/-!
# Attributes read as a table of values

The attributes of a descriptor are written as a table of values is: an object with a list of words
behind each name. Where every attribute has values, the table that is read has just these, each name
at its place and each list in its order. An attribute that takes any value is written as null, for
which a table has no word.

    parseValueTable_of_isTextOf :
      IsTextOf text (attributesJson table.toAttributes) → parseValueTable text = .ok table
-/

namespace TagGrammar

open Json

/-! ## Values -/

namespace OrderedSet

variable {α : Type u} [DecidableEq α]

/-- A list without repetitions is taken as it is. -/
theorem members_ofList {l : List α} (h : l.Nodup) : (ofList l).members = l := by
  induction l using List.reverseRecOn with
  | nil => rfl
  | append_singleton l a ih =>
    obtain ⟨hl, _, hnew⟩ := List.nodup_append.1 h
    have ha : a ∉ l := fun hmem => hnew a hmem a (List.mem_singleton.2 rfl) rfl
    rw [ofList, List.foldl_append]
    show ((ofList l).insert a).members = _
    rw [members_insert, ih hl, if_neg ha]

theorem ofList_members (s : OrderedSet α) : ofList s.members = s := by
  have hmembers : (ofList s.members).members = s.members := members_ofList s.nodup_members
  cases h : ofList s.members
  cases s
  simp_all

end OrderedSet

/-! ## Tables as attributes -/

namespace ValueTable

variable {table : ValueTable}

/-- The names, each with its values as a list. -/
def lists (table : ValueTable) : List (String × List String) :=
  table.entries.map fun e => (e.1, e.2.members)

/-- Attributes that take the values of the table. -/
def toAttributes (table : ValueTable) : OrderedMap String (Option ValueSet) where
  entries := table.entries.map fun e => (e.1, some e.2)
  nodup_keys := by
    rw [List.map_map]
    exact table.nodup_keys

theorem keys_toAttributes (table : ValueTable) : table.toAttributes.keys = table.keys := by
  unfold OrderedMap.keys toAttributes
  rw [List.map_map]
  rfl

theorem size_toAttributes (table : ValueTable) : table.toAttributes.size = table.size :=
  List.length_map _

theorem get?_toAttributes (table : ValueTable) (name : String) :
    table.toAttributes.get? name = (table.get? name).map some := by
  unfold OrderedMap.get? toAttributes
  rw [List.find?_map, Option.map_map, Option.map_map]
  rfl

/-- Attributes that all have values are those of a table. -/
theorem exists_toAttributes_eq {m : OrderedMap String (Option ValueSet)}
    (h : ∀ name, m.get? name ≠ some none) : ∃ table : ValueTable, table.toAttributes = m := by
  obtain ⟨entries, nodup_keys⟩ := m
  have hentries : entries ∈ Set.range (List.map fun e : String × ValueSet => (e.1, some e.2)) := by
    rw [Set.range_list_map]
    rintro ⟨name, values⟩ he
    cases values with
    | none => exact absurd (OrderedMap.get?_eq_some_iff.2 he) (h name)
    | some values => exact ⟨(name, values), rfl⟩
  obtain ⟨l, rfl⟩ := hentries
  have hl : (l.map Prod.fst).Nodup := by
    rw [List.map_map] at nodup_keys
    exact nodup_keys
  exact ⟨⟨l, hl⟩, rfl⟩

/-! ## Reading a table -/

theorem nodup_keys_lists (table : ValueTable) : (table.lists.map Prod.fst).Nodup := by
  rw [lists, List.map_map]
  exact table.nodup_keys

theorem ofList_lists (table : ValueTable) : ofList table.lists = table := by
  have hinserted : ofList table.lists =
      OrderedMap.ofList (table.lists.map fun e => (e.1, OrderedSet.ofList e.2)) := by
    rw [OrderedMap.ofList, List.foldl_map]
    rfl
  have hsame : (table.lists.map fun e => (e.1, OrderedSet.ofList e.2)) = table.entries := by
    simp [lists, Function.comp_def, OrderedSet.ofList_members]
  rw [hinserted, hsame, OrderedMap.ofList_entries]

theorem attributesJson_toAttributes (table : ValueTable) :
    attributesJson table.toAttributes = writtenEnums table.lists := by
  simp [attributesJson, writtenEnums, toAttributes, lists, valuesJson]

/-- Whichever text of a table is taken, the table is what is read. -/
theorem parseValueTable_of_isTextOf {text : String}
    (h : IsTextOf text (attributesJson table.toAttributes)) :
    parseValueTable text = .ok table := by
  have hlists : wordLists (toDraft (attributesJson table.toAttributes)) =
      .ok (.ofList table.lists) := by
    rw [attributesJson_toAttributes, wordLists_writtenEnums]
  rw [parseValueTable, read_of_isTextOf h, Reading.decode, hlists]
  show Except.ok (ofList (OrderedMap.ofList table.lists).entries) = _
  rw [OrderedMap.entries_ofList table.nodup_keys_lists, ofList_lists]

end ValueTable

/-! ## Descriptors -/

/-- Where no attribute of a descriptor takes any value whatever, its attributes, as they are written
in the published form, in either layout and at any depth, are read as a table of values. The table
has as many names as there are attributes, in their order; for each of them it has the same values
in the same order, and it has no opinion on any other name. -/
theorem Descriptor.exists_table_of_attributes {d : Descriptor}
    (h : ∀ name, d.attribute? name ≠ some none) :
    ∃ attributes children, d.toJson = .object [("attrs", attributes), ("children", children)] ∧
      ∀ layout level, ∃ table,
        parseValueTable (.ofList (render layout level attributes)) = .ok table ∧
          table.size = d.attributes.size ∧ table.keys = d.attributes.keys ∧
          (∀ name values, d.attribute? name = some (some values) →
            ∀ type, table.factory name type = some values) ∧
          ∀ name, d.attribute? name = none → ∀ type, table.factory name type = none := by
  refine ⟨_, _, rfl, fun layout level => ?_⟩
  obtain ⟨table, htable⟩ := ValueTable.exists_toAttributes_eq h
  have hget : ∀ name, d.attribute? name = (table.get? name).map some := by
    intro name
    rw [attribute?, ← htable, table.get?_toAttributes]
  refine ⟨table, ?_, ?_, ?_, fun name values hname type => ?_, fun name hname type => ?_⟩
  · rw [← htable]
    apply ValueTable.parseValueTable_of_isTextOf
    exact isTextOf_render (plain_attributesJson 125 _) layout level
  · rw [← htable, table.size_toAttributes]
  · rw [← htable, table.keys_toAttributes]
  · rw [hget] at hname
    obtain ⟨found, hfound, hvalues⟩ := Option.map_eq_some_iff.1 hname
    cases hvalues
    exact hfound
  · rw [hget] at hname
    exact Option.map_eq_none_iff.1 hname

/-! ## A sign

It has a quote and a backslash for a name, and no name at all for another. -/

namespace Sign

def sign : Descriptor :=
  Descriptor.blank (some "sign")
    |>.setAttribute "\"\\" (some (.ofList ["\n", "\x01", "𝄞"]))
    |>.setAttribute "" (some .empty)

/-- The attributes of the sign as they are published in one line. -/
def text : String := "\x7b\"\\\"\\\\\":[\"\\n\",\"\\u0001\",\"𝄞\"],\"\":[]\x7d"

theorem text_attributesJson : (attributesJson sign.attributes).text .compact = text := by
  decide +kernel

theorem exists_table_of_sign : (∀ name, sign.attribute? name ≠ some none) ∧
    ∃ table, parseValueTable text = .ok table ∧ table.size = 2 ∧ table.keys = ["\"\\", ""] ∧
      (∀ type, table.factory "\"\\" type = some (.ofList ["\n", "\x01", "𝄞"])) ∧
      (∀ type, table.factory "" type = some .empty) ∧
      ∀ type, table.factory "sign" type = none := by
  have hentries : ∀ e ∈ sign.attributes.entries, e.2 ≠ none := by decide
  have hvalues : ∀ name, sign.attribute? name ≠ some none := by
    intro name hname
    exact hentries _ (OrderedMap.get?_eq_some_iff.1 hname) rfl
  obtain ⟨attributes, children, hjson, hread⟩ := Descriptor.exists_table_of_attributes hvalues
  obtain ⟨rfl, _⟩ : attributesJson sign.attributes = attributes ∧
      .array (sign.children.tags.map .string) = children := by
    simpa [Descriptor.toJson] using hjson
  obtain ⟨table, htable, hsize, hkeys, hnamed, hother⟩ := hread .compact 0
  have htext : String.ofList (render .compact 0 (attributesJson sign.attributes)) = text :=
    text_attributesJson
  rw [htext] at htable
  exact ⟨hvalues, table, htable, hsize, hkeys, hnamed _ _ (by decide), hnamed _ _ (by decide),
    hother _ (by decide)⟩

end Sign

end TagGrammar
