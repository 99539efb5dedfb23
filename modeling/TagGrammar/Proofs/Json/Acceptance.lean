import Mathlib.Data.Set.List
import TagGrammar.Proofs.FallibleSteps
import TagGrammar.Proofs.Json.Records
import TagGrammar.Proofs.Json.RoundTrip

/-!
# What decoders accept

A decoder reads drafts, which may have faults. It reads all of what it accepts, so what it accepts
has no fault and is the draft of a value (`Decoder.Faultless`). Hence a text that can be decoded is
JSON, and it is its value that was decoded (`exists_parse_of_decode`).

Of a record that is accepted it is known that every key is a field, that no key comes twice, and
that behind each key the form has accepted the value (`RecordForm.accepts_of_decoder`).
-/

namespace TagGrammar.Json

variable {α : Type}

/-! ## Failures -/

theorem inText_eq_ok_iff {x : Except TextFault α} {a : α} : inText x = .ok a ↔ x = .ok a := by
  cases x with
  | ok b =>
    show Except.ok b = _ ↔ _
    simp
  | error fault => simp [inText]

theorem expect_ne_ok (expected : String) (d : Draft) (a : α) : expect expected d ≠ .ok a := by
  intro h
  obtain ⟨found, _, h⟩ := bind_eq_ok_iff.1 h
  cases h

theorem Ending.eq_closed_of_check {ending : Ending} (h : ending.check = .ok ()) :
    ending = .closed := by
  cases ending with
  | closed => rfl
  | stopped fault afterComma => cases h

theorem Ending.eq_closed_of_checkLast {ending : Ending} (h : ending.checkLast = .ok ()) :
    ending = .closed := by
  cases ending with
  | closed => rfl
  | stopped fault afterComma =>
    cases afterComma with
    | false => cases h
    | true => cases h

/-! ## Drafts of values -/

/-- The draft of some value, which has no fault. -/
def Draft.IsWhole (d : Draft) : Prop := ∃ j, d = toDraft j

theorem isWhole_array {items : List Draft} (h : ∀ d ∈ items, d.IsWhole) :
    (Draft.array items .closed).IsWhole := by
  have hrange : items ∈ Set.range (List.map toDraft) := by
    rw [Set.range_list_map]
    intro d hd
    obtain ⟨j, rfl⟩ := h d hd
    exact ⟨j, rfl⟩
  obtain ⟨values, rfl⟩ := hrange
  exact ⟨.array values, by rw [toDraft, toDraftItems_eq_map]⟩

theorem isWhole_object {members : List (String × Draft)} (h : ∀ m ∈ members, m.2.IsWhole) :
    (Draft.object members .closed).IsWhole := by
  have hrange : members ∈ Set.range (List.map fun m : String × Json => (m.1, toDraft m.2)) := by
    rw [Set.range_list_map]
    intro m hm
    obtain ⟨j, hj⟩ := h m hm
    exact ⟨(m.1, j), Prod.ext rfl hj.symm⟩
  obtain ⟨values, rfl⟩ := hrange
  exact ⟨.object values, by rw [toDraft, toDraftMembers_eq_map]⟩

mutual

/-- A draft that can be read as a whole is the draft of what is read. -/
theorem eq_toDraft_of_whole : {d : Draft} → {j : Json} → d.whole = .ok j → d = toDraft j
  | .null, _, h => by cases h; rfl
  | .boolean _, _, h => by cases h; rfl
  | .number _, _, h => by cases h; rfl
  | .string _, _, h => by cases h; rfl
  | .array items ending, _, h => by
    rw [Draft.whole] at h
    obtain ⟨values, hitems, h⟩ := bind_eq_ok_iff.1 h
    obtain ⟨_, hending, h⟩ := bind_eq_ok_iff.1 h
    cases h
    rw [toDraft, ← eq_toDraftItems_of_whole hitems, ending.eq_closed_of_check hending]
  | .object members ending, _, h => by
    rw [Draft.whole] at h
    obtain ⟨values, hmembers, h⟩ := bind_eq_ok_iff.1 h
    obtain ⟨_, hending, h⟩ := bind_eq_ok_iff.1 h
    cases h
    rw [toDraft, ← eq_toDraftMembers_of_whole hmembers, ending.eq_closed_of_check hending]
  | .tooDeep _, _, h => by cases h
  | .missing, _, h => by cases h
  | .badString _, _, h => by cases h
  | .bad _, _, h => by cases h

theorem eq_toDraftItems_of_whole : {items : List Draft} → {values : List Json} →
    Draft.wholeItems items = .ok values → items = toDraftItems values
  | [], _, h => by cases h; rfl
  | item :: items, _, h => by
    rw [Draft.wholeItems] at h
    obtain ⟨value, hitem, h⟩ := bind_eq_ok_iff.1 h
    obtain ⟨values, hitems, h⟩ := bind_eq_ok_iff.1 h
    cases h
    rw [toDraftItems, ← eq_toDraft_of_whole hitem, ← eq_toDraftItems_of_whole hitems]

theorem eq_toDraftMembers_of_whole : {members : List (String × Draft)} →
    {values : List (String × Json)} →
    Draft.wholeMembers members = .ok values → members = toDraftMembers values
  | [], _, h => by cases h; rfl
  | (key, item) :: members, _, h => by
    rw [Draft.wholeMembers] at h
    obtain ⟨value, hitem, h⟩ := bind_eq_ok_iff.1 h
    obtain ⟨values, hmembers, h⟩ := bind_eq_ok_iff.1 h
    cases h
    rw [toDraftMembers, ← eq_toDraft_of_whole hitem, ← eq_toDraftMembers_of_whole hmembers]

end

/-- Different values have different drafts. -/
theorem toDraft_injective : Function.Injective toDraft := by
  intro j j' h
  have hwhole : (toDraft j).whole = (toDraft j').whole := by rw [h]
  rw [whole_toDraft, whole_toDraft] at hwhole
  exact Except.ok.inj hwhole

/-! ## Decoders -/

namespace Decoder

variable {decode : Decoder α} {d : Draft}

/-- All that the decoder accepts are drafts of values. -/
def Faultless (decode : Decoder α) : Prop := ∀ ⦃d : Draft⦄ ⦃a : α⦄, decode d = .ok a → d.IsWhole

theorem Faultless.of_bind {β : Type} {next : α → Except JsonFault β} {b : β}
    (h : Faultless decode) (hd : decode d >>= next = .ok b) : d.IsWhole := by
  obtain ⟨a, ha, _⟩ := bind_eq_ok_iff.1 hd
  exact h ha

theorem faultless_text : Faultless Decoder.text := by
  intro d a h
  cases d with
  | string s => exact ⟨.string s, rfl⟩
  | _ => exact absurd h (expect_ne_ok _ _ _)

theorem of_optional {a : Option α} (h : optional decode d = .ok a) :
    d = .null ∨ ∃ b, decode d = .ok b := by
  cases d with
  | null => exact .inl rfl
  | _ =>
    obtain ⟨b, hb, _⟩ := bind_eq_ok_iff.1 h
    exact .inr ⟨b, hb⟩

/-- A value that is accepted is null or accepted without the option. -/
theorem exists_of_optional {j : Json} {a : Option α} (h : optional decode (toDraft j) = .ok a)
    (hj : j ≠ .null) : ∃ b, decode (toDraft j) = .ok b := by
  rcases of_optional h with hnull | hvalue
  · exact absurd (toDraft_injective hnull) hj
  · exact hvalue

theorem Faultless.optional (h : Faultless decode) : Faultless (optional decode) := by
  intro d a hd
  rcases of_optional hd with rfl | ⟨b, hb⟩
  · exact ⟨.null, rfl⟩
  · exact h hb

theorem of_listOf {as : List α} (h : listOf decode d = .ok as) :
    ∃ items, d = .array items .closed ∧ ∀ item ∈ items, ∃ a, decode item = .ok a := by
  cases d with
  | array items ending =>
    obtain ⟨values, hvalues, h⟩ := bind_eq_ok_iff.1 h
    obtain ⟨_, hending, _⟩ := bind_eq_ok_iff.1 h
    rw [ending.eq_closed_of_check (inText_eq_ok_iff.1 hending)]
    exact ⟨items, rfl, exists_ok_of_mapM_eq_ok hvalues⟩
  | tooDeep kind =>
    cases kind with
    | sequence => cases h
    | map => exact absurd h (expect_ne_ok _ _ _)
  | _ => exact absurd h (expect_ne_ok _ _ _)

/-- The items of an array that is accepted are accepted. -/
theorem exists_of_listOf {items : List Json} {as : List α}
    (h : listOf decode (toDraft (.array items)) = .ok as) :
    ∀ item ∈ items, ∃ a, decode (toDraft item) = .ok a := by
  intro item hitem
  obtain ⟨drafts, heq, hdrafts⟩ := of_listOf h
  rw [toDraft, toDraftItems_eq_map] at heq
  cases heq
  exact hdrafts _ (List.mem_map_of_mem hitem)

theorem Faultless.listOf (h : Faultless decode) : Faultless (listOf decode) := by
  intro d as hd
  obtain ⟨items, rfl, hitems⟩ := of_listOf hd
  apply isWhole_array
  intro item hitem
  obtain ⟨a, ha⟩ := hitems item hitem
  exact h ha

theorem Faultless.entriesOf (h : Faultless decode) : Faultless (entriesOf decode) := by
  intro d entries hd
  cases d with
  | object members ending =>
    obtain ⟨values, hvalues, hd⟩ := bind_eq_ok_iff.1 hd
    obtain ⟨_, hending, _⟩ := bind_eq_ok_iff.1 hd
    rw [ending.eq_closed_of_check (inText_eq_ok_iff.1 hending)]
    apply isWhole_object
    intro m hm
    obtain ⟨entry, hentry⟩ := exists_ok_of_mapM_eq_ok hvalues m hm
    exact h.of_bind hentry
  | tooDeep kind =>
    cases kind with
    | sequence => exact absurd hd (expect_ne_ok _ _ _)
    | map => cases hd
  | _ => exact absurd hd (expect_ne_ok _ _ _)

end Decoder

/-! ## Records -/

namespace RecordForm

variable {σ : Type} {form : RecordForm σ α}

/-- The form accepts the value for the field, with some parts being known. -/
def Accepts (form : RecordForm σ α) (field : String) (d : Draft) : Prop :=
  ∃ parts parts', form.set field d parts = .ok parts'

/-- The members of an object that is read have different keys, which are fields that were not seen
before, and the form accepts their values. -/
theorem of_readMembers {members : List (String × Draft)} {seen : List String} {parts parts' : σ}
    (h : form.readMembers seen members parts = .ok parts') :
    (members.map Prod.fst).Nodup ∧
      ∀ m ∈ members, m.1 ∈ form.fields ∧ m.1 ∉ seen ∧ form.Accepts m.1 m.2 := by
  induction members generalizing seen parts with
  | nil => simp
  | cons m members ih =>
    obtain ⟨key, value⟩ := m
    rw [readMembers] at h
    split at h
    · cases h
    · next hfield =>
      split at h
      · cases h
      · next hseen =>
        obtain ⟨next, hnext, hrest⟩ := bind_eq_ok_iff.1 h
        obtain ⟨hnodup, hmembers⟩ := ih hrest
        constructor
        · rw [List.map_cons, List.nodup_cons]
          refine ⟨?_, hnodup⟩
          intro hkey
          obtain ⟨m, hm, hsame⟩ := List.mem_map.1 hkey
          exact (hmembers m hm).2.1 (List.mem_cons.2 (.inl hsame))
        · intro m hm
          rcases List.mem_cons.1 hm with rfl | hm
          · exact ⟨not_not.1 hfield, hseen, parts, next, hnext⟩
          · obtain ⟨hin, hnew, haccepts⟩ := hmembers m hm
            exact ⟨hin, fun hmem => hnew (List.mem_cons_of_mem _ hmem), haccepts⟩

/-- The items of an array that is read are no more than the fields, and the form accepts each of
them for its field. -/
theorem of_readItems {ending : Ending} {fields : List String} {index : Nat} {items : List Draft}
    {parts parts' : σ} (h : form.readItems ending fields index items parts = .ok parts') :
    ending = .closed ∧ items.length ≤ fields.length ∧
      ∀ e ∈ fields.zip items, form.Accepts e.1 e.2 := by
  induction fields generalizing index items parts with
  | nil =>
    cases items with
    | nil =>
      obtain ⟨_, hending, _⟩ := bind_eq_ok_iff.1 h
      exact ⟨ending.eq_closed_of_checkLast (inText_eq_ok_iff.1 hending), Nat.le_refl 0, by simp⟩
    | cons item items => cases h
  | cons field fields ih =>
    cases items with
    | nil =>
      obtain ⟨_, hending, _⟩ := bind_eq_ok_iff.1 h
      exact ⟨ending.eq_closed_of_check (inText_eq_ok_iff.1 hending), Nat.zero_le _, by simp⟩
    | cons item items =>
      obtain ⟨next, hnext, hrest⟩ := bind_eq_ok_iff.1 h
      obtain ⟨hending, hlength, hitems⟩ := ih hrest
      refine ⟨hending, Nat.succ_le_succ hlength, ?_⟩
      rw [List.zip_cons_cons, List.forall_mem_cons]
      exact ⟨⟨parts, next, hnext⟩, hitems⟩

/-- What is decoded as a record is an object or an array that the form accepts in all its parts. -/
theorem of_decoder {d : Draft} {a : α} (h : form.decoder d = .ok a) :
    (∃ members, d = .object members .closed ∧ (members.map Prod.fst).Nodup ∧
      ∀ m ∈ members, m.1 ∈ form.fields ∧ form.Accepts m.1 m.2) ∨
    ∃ items, d = .array items .closed ∧ items.length ≤ form.fields.length ∧
      ∀ e ∈ form.fields.zip items, form.Accepts e.1 e.2 := by
  cases d with
  | object members ending =>
    obtain ⟨parts, hparts, h⟩ := bind_eq_ok_iff.1 h
    obtain ⟨_, hending, _⟩ := bind_eq_ok_iff.1 h
    rw [ending.eq_closed_of_check (inText_eq_ok_iff.1 hending)]
    obtain ⟨hnodup, hmembers⟩ := of_readMembers hparts
    refine .inl ⟨members, rfl, hnodup, ?_⟩
    intro m hm
    exact ⟨(hmembers m hm).1, (hmembers m hm).2.2⟩
  | array items ending =>
    obtain ⟨parts, hparts, _⟩ := bind_eq_ok_iff.1 h
    obtain ⟨hending, hlength, hitems⟩ := of_readItems hparts
    rw [hending]
    exact .inr ⟨items, rfl, hlength, hitems⟩
  | tooDeep kind => cases h
  | _ => exact absurd h (expect_ne_ok _ _ _)

/-- A form that accepts only values without faults accepts only records without faults. -/
theorem faultless_decoder (h : ∀ field d, form.Accepts field d → d.IsWhole) :
    Decoder.Faultless form.decoder := by
  intro d a hd
  rcases of_decoder hd with ⟨members, rfl, _, hmembers⟩ | ⟨items, rfl, hlength, hitems⟩
  · apply isWhole_object
    intro m hm
    exact h _ _ (hmembers m hm).2
  · apply isWhole_array
    intro item hitem
    rw [← List.map_snd_zip hlength] at hitem
    obtain ⟨e, he, rfl⟩ := List.mem_map.1 hitem
    exact h _ _ (hitems e he)

end RecordForm

/-- The keys of an object are among these, and none comes twice. -/
structure KeysAmong (keys : List String) (members : List (String × Json)) : Prop where
  nodup : (members.map Prod.fst).Nodup
  mem : ∀ m ∈ members, m.1 ∈ keys

/-- The parts of a record, each behind its field. -/
def parts (fields : List String) : Json → List (String × Json)
  | .object members => members
  | .array items => fields.zip items
  | _ => []

namespace RecordForm

variable {σ : Type} {form : RecordForm σ α} {a : α}

/-- A value that is decoded as a record has parts that the form accepts. -/
theorem accepts_of_decoder {j : Json} (h : form.decoder (toDraft j) = .ok a) :
    ∀ e ∈ j.parts form.fields, form.Accepts e.1 (toDraft e.2) := by
  intro e he
  cases j with
  | object members =>
    rcases of_decoder h with ⟨drafts, heq, _, hmembers⟩ | ⟨_, heq, _⟩
    · rw [toDraft, toDraftMembers_eq_map] at heq
      cases heq
      exact (hmembers _ (List.mem_map.2 ⟨e, he, rfl⟩)).2
    · cases heq
  | array items =>
    rcases of_decoder h with ⟨_, heq, _⟩ | ⟨drafts, heq, _, hitems⟩
    · cases heq
    · rw [toDraft, toDraftItems_eq_map] at heq
      cases heq
      have hmem : (e.1, toDraft e.2) ∈ form.fields.zip (items.map toDraft) := by
        rw [List.zip_map_right]
        exact List.mem_map.2 ⟨e, he, rfl⟩
      exact hitems _ hmem
  | _ => cases he

/-- If the form hands the values of a field to a decoder, this decoder accepts the part there. -/
theorem exists_of_part {β : Type} {decode : Decoder β} {next : σ → β → Except JsonFault σ}
    {field : String} (hset : ∀ d parts, form.set field d parts = decode d >>= next parts)
    {j value : Json} (h : form.decoder (toDraft j) = .ok a)
    (hpart : (field, value) ∈ j.parts form.fields) : ∃ b, decode (toDraft value) = .ok b := by
  obtain ⟨parts, parts', haccepted⟩ := accepts_of_decoder h _ hpart
  rw [hset] at haccepted
  obtain ⟨b, hb, _⟩ := bind_eq_ok_iff.1 haccepted
  exact ⟨b, hb⟩

/-- The keys of an object that is decoded as a record are fields, and none comes twice. -/
theorem keysAmong_of_decoder {members : List (String × Json)}
    (h : form.decoder (toDraft (.object members)) = .ok a) : KeysAmong form.fields members := by
  rcases of_decoder h with ⟨drafts, heq, hnodup, hmembers⟩ | ⟨_, heq, _⟩
  · rw [toDraft, toDraftMembers_eq_map] at heq
    cases heq
    rw [List.map_map] at hnodup
    refine ⟨hnodup, ?_⟩
    intro m hm
    exact (hmembers _ (List.mem_map.2 ⟨m, hm, rfl⟩)).1
  · cases heq

end RecordForm

/-! ## Texts -/

/-- A text that can be decoded is JSON, and its value is what was decoded. -/
theorem exists_parse_of_decode {decode : Decoder α} {text : String} {a : α}
    (hdecode : decode.Faultless) (h : (read text).decode decode = .ok a) :
    ∃ j, parse text = .ok j ∧ decode (toDraft j) = .ok a := by
  obtain ⟨b, hb, h⟩ := bind_eq_ok_iff.1 h
  obtain ⟨_, htrailing, h⟩ := bind_eq_ok_iff.1 h
  cases h
  obtain ⟨j, hj⟩ := hdecode hb
  refine ⟨j, ?_, by rw [← hj]; exact hb⟩
  rw [parse, hj, whole_toDraft, ok_bind, inText_eq_ok_iff.1 htrailing]
  rfl

end TagGrammar.Json
