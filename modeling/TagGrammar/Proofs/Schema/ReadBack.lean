import Mathlib.Data.List.Permutation
import TagGrammar.Proofs.Json.RoundTrip
import TagGrammar.Proofs.Lookup
import TagGrammar.Proofs.Schema.WrittenForm
import TagGrammar.Schema.Decoder

/-!
# Schemas read back

What is written by `Schema.Writes` is read back by the decoders. For each record it is said what is
known once the members with certain keys have been read (`known`); as every member adds what stands
under its key, their order makes no difference. Types are not records: the decoder of a type holds
the members back until it has seen the kind.

Enumerations are read in the order in which they are written. This order is all that may differ
between a schema and what is read back (`Schema.SameContent`), and bindings do not depend on it, so
the text of a schema leads to the same registry or the same error as the schema does
(`Schema.parseBindings_of_writes`).
-/

namespace TagGrammar

open Json Json.Decoder

/-! ## Types -/

namespace DeclaredType

variable {type item : DeclaredType} {j : Json}

theorem Writes.isNull_eq_false (h : type.Writes j) : j.isNull = false := by
  cases h <;> rfl

theorem listOfMembers_item {members : List (String × Json)} (hitem : item.Writes j)
    (hvalue : ofValue j = .ok item) (hafter : nothingAfter "item" members = .ok ()) :
    listOfMembers (("item", j) :: members) = .ok (.list item) := by
  rw [listOfMembers, if_neg (by decide), if_pos rfl, hitem.isNull_eq_false, hvalue, hafter]
  rfl

/-- A type within another one is read back, wherever its kind stands. -/
theorem ofValue_of_writes (h : type.Writes j) : ofValue j = .ok type := by
  induction h with
  | boolean | bareList => rfl
  | enumeration h | scalar h | element h | nullList h =>
    rcases List.perm_pair.1 h with rfl | rfl
    · rfl
    · rfl
  | @list item j _ hitem h ih =>
    rcases List.perm_pair.1 h with rfl | rfl
    · have hlist : listOfMembers [("item", j)] = .ok (.list item) :=
        listOfMembers_item hitem ih rfl
      exact hlist
    · have hlist : listOfMembers [("item", j), ("kind", .string "list")] = .ok (.list item) :=
        listOfMembers_item hitem ih rfl
      exact hlist

theorem reads_decoder : Reads decoder Writes where
  ne_null h := by cases h <;> simp
  decode_eq h := by
    cases h with
    | boolean | bareList => rfl
    | enumeration h | scalar h | element h | nullList h =>
      rcases List.perm_pair.1 h with rfl | rfl
      · rfl
      · rfl
    | @list item j _ hitem h =>
      -- the item is held back until the kind is known, in whichever order they come
      have hlist : listOfMembers [("item", j)] = .ok (.list item) :=
        listOfMembers_item hitem (ofValue_of_writes hitem) rfl
      rcases List.perm_pair.1 h with rfl | rfl
      · simp only [toDraft, toDraftMembers, decoder, splitKind, whole_toDraft]
        exact hlist
      · simp only [toDraft, toDraftMembers, decoder, splitKind, whole_toDraft]
        exact hlist

end DeclaredType

/-! ## Declarations -/

theorem RootElement.reads_decoder : Reads RootElement.form.decoder RootElement.Writes where
  ne_null h := by cases h; simp
  decode_eq {root j} h := by
    cases h with
    | @object members hname =>
      have hnames : form.WritesField (fun keys => if "name" ∈ keys then root.name else none) "name"
          members := by
        refine .optional hname reads_text (by simp [form]) (fun d keys hd => ?_)
          fun hnone keys => ?_
        · simp [form, hd]
        · simp [hnone]
      exact RecordForm.decoder_of_fields _ [("name", members)] (by simpa using hnames) (by simp)
        (by simp) rfl rfl

namespace AttributeDeclaration

/-- What is known of an attribute from the members with these keys. -/
def known (a : AttributeDeclaration) (keys : Finset String) : Parts where
  accessor := if "accessor" ∈ keys then some a.accessor else none
  name := if "name" ∈ keys then a.name else none
  type := if "type" ∈ keys then some a.type else none

theorem reads_decoder : Reads form.decoder Writes where
  ne_null h := by cases h; simp
  decode_eq {a j} h := by
    cases h with
    | @object typeValue names members hname htype h =>
      have haccessors : form.WritesField a.known "accessor" [("accessor", .string a.accessor)] := by
        refine .required (by simp [form]) fun keys => ?_
        simp [form, known, toDraft, Decoder.text]
      have hnames : form.WritesField a.known "name" names := by
        refine .optional hname reads_text (by simp [form]) (fun d keys hd => ?_)
          fun hnone keys => ?_
        · simp [form, known, hd]
        · simp [known, hnone]
      have htypes : form.WritesField a.known "type" [("type", typeValue)] := by
        refine .required (by simp [form]) fun keys => ?_
        simp [form, known, DeclaredType.reads_decoder.decode_eq htype]
      exact RecordForm.decoder_of_fields a.known [("accessor", _), ("name", _), ("type", _)]
        (by simpa using ⟨haccessors, hnames, htypes⟩) (by simp) (by simpa using h) rfl rfl

end AttributeDeclaration

namespace ChildDeclaration

/-- What is known of a child from the members with these keys. -/
def known (c : ChildDeclaration) (keys : Finset String) : Parts where
  accessor := if "accessor" ∈ keys then some c.accessor else none
  kind := if "kind" ∈ keys then some c.kind else none
  name := if "name" ∈ keys then c.name else none
  type := if "type" ∈ keys then some c.type else none

theorem decoder_word (kind : DeclaredKind) :
    DeclaredKind.decoder (.string kind.word) = .ok kind := by
  cases kind with
  | reference => rfl
  | named => rfl

theorem reads_decoder : Reads form.decoder Writes where
  ne_null h := by cases h; simp
  decode_eq {c j} h := by
    cases h with
    | @object typeValue names members hname htype h =>
      have haccessors : form.WritesField c.known "accessor" [("accessor", .string c.accessor)] := by
        refine .required (by simp [form]) fun keys => ?_
        simp [form, known, toDraft, Decoder.text]
      have hkinds : form.WritesField c.known "kind" [("kind", .string c.kind.word)] := by
        refine .required (by simp [form]) fun keys => ?_
        simp [form, known, toDraft, decoder_word]
      have hnames : form.WritesField c.known "name" names := by
        refine .optional hname reads_text (by simp [form]) (fun d keys hd => ?_)
          fun hnone keys => ?_
        · simp [form, known, hd]
        · simp [known, hnone]
      have htypes : form.WritesField c.known "type" [("type", typeValue)] := by
        refine .required (by simp [form]) fun keys => ?_
        simp [form, known, DeclaredType.reads_decoder.decode_eq htype]
      exact RecordForm.decoder_of_fields c.known
        [("accessor", _), ("kind", _), ("name", _), ("type", _)]
        (by simpa using ⟨haccessors, hkinds, hnames, htypes⟩) (by simp) (by simpa using h) rfl rfl

end ChildDeclaration

namespace TypeDeclaration

/-- What is known of a type from the members with these keys. -/
def known (t : TypeDeclaration) (keys : Finset String) : Parts where
  name := if "name" ∈ keys then some t.name else none
  supertype := if "extends" ∈ keys then t.supertype else none
  root := if "root" ∈ keys then t.root else none
  attributes := if "attributes" ∈ keys then t.attributes else []
  children := if "children" ∈ keys then t.children else []

theorem reads_decoder : Reads form.decoder Writes where
  ne_null h := by cases h; simp
  decode_eq {t j} h := by
    cases h with
    | @object supertypes roots attributes children members hsupertype hroot hattributes hchildren
        h =>
      have hnames : form.WritesField t.known "name" [("name", .string t.name)] := by
        refine .required (by simp [form]) fun keys => ?_
        simp [form, known, toDraft, Decoder.text]
      have hsupertypes : form.WritesField t.known "extends" supertypes := by
        refine .optional hsupertype reads_text (by simp [form]) (fun d keys hd => ?_)
          fun hnone keys => ?_
        · simp [form, known, hd]
        · simp [known, hnone]
      have hroots : form.WritesField t.known "root" roots := by
        refine .optional hroot RootElement.reads_decoder (by simp [form]) (fun d keys hd => ?_)
          fun hnone keys => ?_
        · simp [form, known, hd]
        · simp [known, hnone]
      have hattributes : form.WritesField t.known "attributes" attributes := by
        refine .list hattributes AttributeDeclaration.reads_decoder (by simp [form])
          (fun d keys hd => ?_) fun hnil keys => ?_
        · simp [form, known, hd]
        · simp [known, hnil]
      have hchildren : form.WritesField t.known "children" children := by
        refine .list hchildren ChildDeclaration.reads_decoder (by simp [form])
          (fun d keys hd => ?_) fun hnil keys => ?_
        · simp [form, known, hd]
        · simp [known, hnil]
      exact RecordForm.decoder_of_fields t.known
        [("name", _), ("extends", _), ("root", _), ("attributes", _), ("children", _)]
        (by simpa using ⟨hnames, hsupertypes, hroots, hattributes, hchildren⟩) (by simp)
        (by simpa using h) rfl rfl

end TypeDeclaration

/-! ## Schemas -/

theorem wordLists_writtenEnums (entries : List (String × List String)) :
    wordLists (toDraft (writtenEnums entries)) = .ok (.ofList entries) := by
  have hwords : Reads (Decoder.listOf Decoder.text) fun (words : List String) j =>
      j = .array (words.map .string) := by
    constructor
    · rintro words _ rfl
      apply reads_text.listOf
      induction words with
      | nil => exact .nil
      | cons word words ih => exact .cons rfl ih
    · rintro words _ rfl
      simp
  have hentries : WritesEntries (fun (words : List String) j => j = .array (words.map .string))
      entries (entries.map fun e => (e.1, .array (e.2.map .string))) := by
    induction entries with
    | nil => exact .nil
    | cons e entries ih => exact .cons ⟨rfl, rfl⟩ ih
  rw [wordLists, writtenEnums, hwords.entriesOf hentries]
  rfl

namespace Schema

variable {s s' : Schema} {j : Json}

/-- What is known of a schema from the members with these keys. -/
def known (s : Schema) (keys : Finset String) : Schema where
  enums := if "enums" ∈ keys then s.enums else .empty
  types := if "types" ∈ keys then s.types else []

/-- The enumerations are read in the order in which they are written. -/
theorem exists_enums_of_writtenField {members : List (String × Json)}
    (h : Enums.WrittenField s.enums members) : ∃ enums : Enums,
      enums.entries.Perm s.enums.entries ∧
        form.WritesField (known ⟨enums, s.types⟩) "enums" members := by
  cases h with
  | leftOut h =>
    refine ⟨s.enums, .refl _, by simp [form], List.nil_sublist _, by simp, fun _ keys => ?_⟩
    simp [known, h]
  | @given entries h =>
    have hnodup : (entries.map Prod.fst).Nodup :=
      (h.map Prod.fst).nodup_iff.2 s.enums.nodup_keys
    refine ⟨.ofList entries, ?_, .required (by simp [form]) fun keys => ?_⟩
    · rw [OrderedMap.entries_ofList hnodup]
      exact h
    · simp [form, known, wordLists_writtenEnums]

theorem exists_decoder_of_writes (h : s.Writes j) :
    ∃ s', s.SameContent s' ∧ form.decoder (toDraft j) = .ok s' := by
  cases h with
  | @object enumFields types members henums htypes h =>
    obtain ⟨enums, hperm, hfields⟩ := exists_enums_of_writtenField henums
    have htypes : form.WritesField (known ⟨enums, s.types⟩) "types" types := by
      refine .list htypes TypeDeclaration.reads_decoder (by simp [form]) (fun d keys hd => ?_)
        fun hnil keys => ?_
      · simp [form, known, hd]
      · simp [known, hnil]
    refine ⟨⟨enums, s.types⟩, ⟨hperm, rfl⟩, ?_⟩
    exact RecordForm.decoder_of_fields _ [("enums", _), ("types", _)]
      (by simpa using ⟨hfields, htypes⟩) (by simp) (by simpa using h) rfl rfl

/-! ## What a schema describes -/

theorem SameContent.get?_eq (h : s.SameContent s') (name : String) :
    s'.enums.get? name = s.enums.get? name := by
  apply Option.ext
  intro variants
  rw [OrderedMap.get?_eq_some_iff, OrderedMap.get?_eq_some_iff, h.enums.mem_iff]

/-- The order of enumerations makes no difference to bindings. -/
theorem SameContent.resolve_eq (h : s.SameContent s') (owner accessor : String)
    (type : DeclaredType) :
    type.resolve s'.enums owner accessor = type.resolve s.enums owner accessor := by
  induction type with
  | boolean | scalar _ | element _ | erasedList => rfl
  | enumeration name => rw [DeclaredType.resolve, DeclaredType.resolve, h.get?_eq]
  | list item ih => rw [DeclaredType.resolve, DeclaredType.resolve, ih]

theorem SameContent.bind_eq (h : s.SameContent s') (t : TypeDeclaration) :
    t.bind s'.enums = t.bind s.enums := by
  simp only [TypeDeclaration.bind, AttributeDeclaration.bind, ChildDeclaration.bind, h.resolve_eq]

/-- Types are bound and registered one after another. -/
theorem registerTypes_eq_foldlM (enums : Enums) (r : Registry) (types : List TypeDeclaration) :
    registerTypes enums r types =
      types.foldlM (fun r t => do r.registered (← t.bind enums)) r := by
  induction types generalizing r with
  | nil => rfl
  | cons t types ih =>
    rw [registerTypes, List.foldlM_cons]
    cases t.bind enums with
    | error e => rfl
    | ok b =>
      cases hr : r.registered b with
      | error e => simp [hr, bind, Except.bind]
      | ok r' => simp [hr, bind, Except.bind, ih]

theorem SameContent.toRegistry_eq (h : s.SameContent s') : s'.toRegistry = s.toRegistry := by
  simp only [toRegistry, registerTypes_eq_foldlM, h.bind_eq, h.types]

/-- Whichever text of a schema is taken, the schema is what is read. -/
theorem exists_parse_of_writes {text : String} (hj : s.Writes j) (htext : IsTextOf text j) :
    ∃ s', s.SameContent s' ∧ Schema.parse text = .ok s' := by
  obtain ⟨s', hsame, hdecoded⟩ := exists_decoder_of_writes hj
  refine ⟨s', hsame, ?_⟩
  rw [Schema.parse, read_of_isTextOf htext, Reading.decode, hdecoded]
  rfl

/-- Whichever text of a schema is taken, it is read as the schema. So what it describes is what
comes of binding each type in order, registering it, and validating the registry in the end, be it
a registry or an error. -/
theorem parseBindings_of_writes {text : String} (hj : s.Writes j) (htext : IsTextOf text j) :
    (∃ s', s.SameContent s' ∧ Schema.parse text = .ok s') ∧
      parseBindings text = do
        let r ← s.types.foldlM (fun r t => do r.registered (← t.bind s.enums)) Registry.empty
        r.validate
        return r := by
  obtain ⟨s', hsame, hparse⟩ := exists_parse_of_writes hj htext
  refine ⟨⟨s', hsame, hparse⟩, ?_⟩
  rw [parseBindings, hparse]
  show s'.toRegistry = _
  rw [hsame.toRegistry_eq, toRegistry, registerTypes_eq_foldlM]

end Schema

/-! ## A wardrobe

Shirts have buttons and a size, and may hold lists of unknown things. The written form has its
members the other way round, and what is not declared is null there or left out. -/

namespace Wardrobe

def size : AttributeDeclaration := ⟨"getSize", none, .enumeration "Size"⟩
def buttons : ChildDeclaration := ⟨"getButtons", .reference, none, .list (.element "Button")⟩
def rest : ChildDeclaration := ⟨"getRest", .named, some "rest", .list .erasedList⟩
def shirt : TypeDeclaration := ⟨"Shirt", none, some ⟨none⟩, [size], [buttons, rest]⟩
def button : TypeDeclaration := ⟨"Button", some "Shirt", none, [], []⟩

def schema : Schema where
  enums := ⟨[("Size", ["SMALL", "LARGE", "SMALL"]), ("Tone", [])], by decide⟩
  types := [shirt, button]

def sizeJson : Json := .object [
  ("type", .object [("name", .string "Size"), ("kind", .string "enum")]),
  ("name", .null), ("accessor", .string "getSize")]

def buttonsJson : Json := .object [
  ("type", .object [("item", .object [("type", .string "Button"), ("kind", .string "element")]),
    ("kind", .string "list")]),
  ("kind", .string "reference"), ("accessor", .string "getButtons")]

def restJson : Json := .object [
  ("type", .object [("item", .object [("item", .null), ("kind", .string "list")]),
    ("kind", .string "list")]),
  ("name", .string "rest"), ("kind", .string "named"), ("accessor", .string "getRest")]

def shirtJson : Json := .object [
  ("children", .array [buttonsJson, restJson]), ("attributes", .array [sizeJson]),
  ("root", .object [("name", .null)]), ("extends", .null), ("name", .string "Shirt")]

def buttonJson : Json := .object [
  ("attributes", .array []), ("root", .null), ("extends", .string "Shirt"),
  ("name", .string "Button")]

def json : Json := .object [
  ("types", .array [shirtJson, buttonJson]),
  ("enums", writtenEnums [("Tone", []), ("Size", ["SMALL", "LARGE", "SMALL"])])]

theorem perm_of_reverse_eq {α : Type} {l l' : List α} (h : l.reverse = l') : l.Perm l' := by
  rw [← h]
  exact (List.reverse_perm l).symm

theorem writes_size : size.Writes sizeJson :=
  .object .null (.enumeration (perm_of_reverse_eq rfl)) (perm_of_reverse_eq rfl)

theorem writes_buttons : buttons.Writes buttonsJson :=
  .object .leftOut (.list (.element (perm_of_reverse_eq rfl)) (perm_of_reverse_eq rfl))
    (perm_of_reverse_eq rfl)

theorem writes_rest : rest.Writes restJson :=
  .object (.given rfl) (.list (.nullList (perm_of_reverse_eq rfl)) (perm_of_reverse_eq rfl))
    (perm_of_reverse_eq rfl)

theorem writes_shirt : shirt.Writes shirtJson :=
  .object .null (.given (.object .null)) (.given (.cons writes_size .nil))
    (.given (.cons writes_buttons (.cons writes_rest .nil))) (perm_of_reverse_eq rfl)

theorem writes_button : button.Writes buttonJson :=
  .object (.given rfl) .null (.given .nil) .leftOut (perm_of_reverse_eq rfl)

theorem writes_schema : schema.Writes json :=
  .object (.given (perm_of_reverse_eq rfl))
    (.given (.cons writes_shirt (.cons writes_button .nil))) (perm_of_reverse_eq rfl)

theorem isTextOf_json : IsTextOf (json.text .indented) json :=
  isTextOf_text (plain_of_isPlain (by decide)) .indented

def shirtBinding : TypeBinding where
  name := ⟨"Shirt"⟩
  supertype := none
  root := some ⟨none⟩
  attributes := [⟨"getSize", none, .enumeration "Size" ["SMALL", "LARGE", "SMALL"]⟩]
  children := [⟨"getButtons", .reference, .list (.element ⟨"Button"⟩)⟩,
    ⟨"getRest", .named "rest", .list .erasedList⟩]

def buttonBinding : TypeBinding := ⟨⟨"Button"⟩, some ⟨"Shirt"⟩, none, [], []⟩

def registry : Registry := ⟨[shirtBinding, buttonBinding], by decide⟩

/-- Shirts without the type of their buttons, and no enumeration but theirs. -/
def torn : Schema where
  enums := ⟨[("Size", ["SMALL", "LARGE", "SMALL"])], by decide⟩
  types := [shirt]

def tornJson : Json := .object [
  ("types", .array [shirtJson]), ("enums", writtenEnums [("Size", ["SMALL", "LARGE", "SMALL"])])]

theorem writes_torn : torn.Writes tornJson :=
  .object (.given (.refl _)) (.given (.cons writes_shirt .nil)) (perm_of_reverse_eq rfl)

theorem isTextOf_tornJson : IsTextOf (tornJson.text .compact) tornJson :=
  isTextOf_text (plain_of_isPlain (by decide)) .compact

theorem parseBindings_wardrobe :
    (schema.Writes json ∧ IsTextOf (json.text .indented) json ∧
      (∃ s', schema.SameContent s' ∧ Schema.parse (json.text .indented) = .ok s') ∧
        parseBindings (json.text .indented) = .ok registry) ∧
      torn.Writes tornJson ∧ IsTextOf (tornJson.text .compact) tornJson ∧
        (∃ s', torn.SameContent s' ∧ Schema.parse (tornJson.text .compact) = .ok s') ∧
          parseBindings (tornJson.text .compact) =
            .error (.binding ⟨.unknownType "Button", some "Shirt", some "getButtons"⟩) := by
  obtain ⟨hread, hregistry⟩ := Schema.parseBindings_of_writes writes_schema isTextOf_json
  obtain ⟨htorn, herror⟩ := Schema.parseBindings_of_writes writes_torn isTextOf_tornJson
  refine ⟨⟨writes_schema, isTextOf_json, hread, ?_⟩, writes_torn, isTextOf_tornJson, htorn, ?_⟩
  · rw [hregistry]
    decide +kernel
  · rw [herror]
    decide +kernel

end Wardrobe

end TagGrammar
