import TagGrammar.Proofs.Schema.Kinds
import TagGrammar.Proofs.Schema.Meaning

/-!
# Keys of declarations

A schema is a tree of declarations, each of which has its declared keys. `Part.ReadAs` says what is
read as which part of a schema, through objects and arrays alike and at any depth, without regard to
what the decoders do with it; and `Part.KeysDeclared` says which keys an object may have there.

If the schema as a whole is accepted, then so is every part of it, by induction along the path to
the part (`Part.accepts_of_readAs`). Hence no key is misspelled and none comes twice in an accepted
schema, with one exception (`Schema.keysDeclared_of_parseBindings`): of a boolean type nothing but
the kind is looked at (`Misspelled.not_forall_keysDeclared`).
-/

namespace TagGrammar

open Json Json.Decoder

/-! ## Texts without faults -/

theorem RootElement.faultless_decoder : Faultless RootElement.form.decoder := by
  apply RecordForm.faultless_decoder
  rintro field d ⟨parts, parts', h⟩
  exact faultless_text.optional h

theorem DeclaredType.faultless_decoder : Faultless DeclaredType.decoder := by
  intro d type h
  obtain ⟨j, hj, _⟩ := exists_of_decoder h
  exact ⟨j, hj⟩

theorem DeclaredKind.faultless_decoder : Faultless DeclaredKind.decoder := by
  intro d kind h
  cases d with
  | string word => exact ⟨.string word, rfl⟩
  | object members ending =>
    cases members with
    | nil =>
      obtain ⟨_, _, h⟩ := bind_eq_ok_iff.1 h
      cases h
    | cons m members =>
      obtain ⟨key, value⟩ := m
      obtain ⟨found, _, h⟩ := bind_eq_ok_iff.1 h
      cases value with
      | null =>
        have hlast : members = [] ∧ ending = .closed := by
          simp only at h
          split at h
          · next hempty =>
            obtain ⟨_, hending, _⟩ := bind_eq_ok_iff.1 h
            have hclosed := ending.eq_closed_of_checkLast (inText_eq_ok_iff.1 hending)
            exact ⟨List.isEmpty_iff.1 hempty, hclosed⟩
          · cases h
        obtain ⟨rfl, rfl⟩ := hlast
        exact ⟨.object [(key, .null)], rfl⟩
      | _ => exact absurd h (expect_ne_ok _ _ _)
  | _ => cases h

theorem AttributeDeclaration.faultless_decoder : Faultless AttributeDeclaration.form.decoder := by
  apply RecordForm.faultless_decoder
  rintro field d ⟨parts, parts', h⟩
  simp only [form] at h
  split at h
  · exact faultless_text.of_bind h
  · exact faultless_text.optional.of_bind h
  · exact DeclaredType.faultless_decoder.of_bind h

theorem ChildDeclaration.faultless_decoder : Faultless ChildDeclaration.form.decoder := by
  apply RecordForm.faultless_decoder
  rintro field d ⟨parts, parts', h⟩
  simp only [form] at h
  split at h
  · exact faultless_text.of_bind h
  · exact DeclaredKind.faultless_decoder.of_bind h
  · exact faultless_text.optional.of_bind h
  · exact DeclaredType.faultless_decoder.of_bind h

theorem TypeDeclaration.faultless_decoder : Faultless TypeDeclaration.form.decoder := by
  apply RecordForm.faultless_decoder
  rintro field d ⟨parts, parts', h⟩
  simp only [form] at h
  split at h
  · exact faultless_text.of_bind h
  · exact faultless_text.optional.of_bind h
  · exact RootElement.faultless_decoder.optional.of_bind h
  · exact AttributeDeclaration.faultless_decoder.listOf.of_bind h
  · exact ChildDeclaration.faultless_decoder.listOf.of_bind h

theorem faultless_wordLists : Faultless wordLists := by
  intro d lists h
  exact faultless_text.listOf.entriesOf.of_bind h

theorem Schema.faultless_decoder : Faultless Schema.form.decoder := by
  apply RecordForm.faultless_decoder
  rintro field d ⟨parts, parts', h⟩
  simp only [form] at h
  split at h
  · exact faultless_wordLists.of_bind h
  · exact TypeDeclaration.faultless_decoder.listOf.of_bind h

/-! ## Parts of a schema -/

/-- What is declared by an object or an array in a schema. -/
inductive Part where
  | document
  | typeDeclaration
  | rootElement
  | attributeDeclaration
  | childDeclaration
  | valueType
  deriving DecidableEq, Repr

namespace Part

/-- The declared keys, in the order in which the items of an array stand for them. Those of a value
type depend on its kind; these are the keys of a list, the only kind with a value type within it. -/
def keys : Part → List String
  | .document => ["enums", "types"]
  | .typeDeclaration => ["name", "extends", "root", "attributes", "children"]
  | .rootElement => ["name"]
  | .attributeDeclaration => ["accessor", "name", "type"]
  | .childDeclaration => ["accessor", "kind", "name", "type"]
  | .valueType => DeclaredType.Kind.list.keys

/-- An object has no keys but the declared ones, and none of them twice. A value type names its
kind, which says what the other keys are. -/
def KeysDeclared (part : Part) (members : List (String × Json)) : Prop :=
  match part with
  | .valueType => ∃ (kind : DeclaredType.Kind) (value : Json),
      (DeclaredType.kindKey, value) ∈ members ∧ kind.NamedBy value ∧ KeysAmong kind.keys members
  | part => KeysAmong part.keys members

/-- What is read as a part of the schema that a whole value is. -/
inductive ReadAs (whole : Json) : Part → Json → Prop where
  | document : ReadAs whole .document whole
  | typeOf {j type : Json} {types : List Json} (h : ReadAs whole .document j)
      (hpart : ("types", .array types) ∈ j.parts Part.document.keys) (htype : type ∈ types) :
      ReadAs whole .typeDeclaration type
  | rootOf {j root : Json} (h : ReadAs whole .typeDeclaration j)
      (hpart : ("root", root) ∈ j.parts Part.typeDeclaration.keys) (hroot : root ≠ .null) :
      ReadAs whole .rootElement root
  | attributeOf {j a : Json} {attributes : List Json} (h : ReadAs whole .typeDeclaration j)
      (hpart : ("attributes", .array attributes) ∈ j.parts Part.typeDeclaration.keys)
      (ha : a ∈ attributes) : ReadAs whole .attributeDeclaration a
  | childOf {j child : Json} {children : List Json} (h : ReadAs whole .typeDeclaration j)
      (hpart : ("children", .array children) ∈ j.parts Part.typeDeclaration.keys)
      (hchild : child ∈ children) : ReadAs whole .childDeclaration child
  | attributeType {j type : Json} (h : ReadAs whole .attributeDeclaration j)
      (hpart : ("type", type) ∈ j.parts Part.attributeDeclaration.keys) :
      ReadAs whole .valueType type
  | childType {j type : Json} (h : ReadAs whole .childDeclaration j)
      (hpart : ("type", type) ∈ j.parts Part.childDeclaration.keys) : ReadAs whole .valueType type
  | itemOf {j value item : Json} (h : ReadAs whole .valueType j)
      (hkind : (DeclaredType.kindKey, value) ∈ j.parts Part.valueType.keys)
      (hlist : DeclaredType.Kind.list.NamedBy value)
      (hpart : ("item", item) ∈ j.parts Part.valueType.keys) (hitem : item ≠ .null) :
      ReadAs whole .valueType item

/-- The value is accepted as such a part. -/
def Accepts : Part → Json → Prop
  | .document, j => ∃ s, Schema.form.decoder (toDraft j) = .ok s
  | .typeDeclaration, j => ∃ t, TypeDeclaration.form.decoder (toDraft j) = .ok t
  | .rootElement, j => ∃ root, RootElement.form.decoder (toDraft j) = .ok root
  | .attributeDeclaration, j => ∃ a, AttributeDeclaration.form.decoder (toDraft j) = .ok a
  | .childDeclaration, j => ∃ c, ChildDeclaration.form.decoder (toDraft j) = .ok c
  | .valueType, j => ∃ type, DeclaredType.ofValue j = .ok type

/-! ### What is accepted -/

theorem keysDeclared_of_accepts {part : Part} {members : List (String × Json)}
    (h : part.Accepts (.object members)) :
    part.KeysDeclared members ∨ part = .valueType ∧ DeclaredType.IsBoolean members := by
  cases part with
  | valueType =>
    obtain ⟨type, htype⟩ := h
    exact (DeclaredType.keysAmong_of_ofValue htype).imp_right fun hboolean => ⟨rfl, hboolean⟩
  | _ =>
    obtain ⟨_, h⟩ := h
    exact .inl (RecordForm.keysAmong_of_decoder h)

theorem accepts_valueType {j : Json} {type : DeclaredType}
    (h : DeclaredType.decoder (toDraft j) = .ok type) : Part.valueType.Accepts j := by
  obtain ⟨j', hj, hvalue⟩ := DeclaredType.exists_of_decoder h
  rw [toDraft_injective hj]
  exact ⟨type, hvalue⟩

/-- Whatever is read as a part of an accepted schema is accepted as this part. -/
theorem accepts_of_readAs {whole j : Json} {part : Part} (h : ReadAs whole part j)
    (hwhole : Part.document.Accepts whole) : part.Accepts j := by
  -- one step of the path leads from a part that is accepted to a part of it
  induction h with
  | document => exact hwhole
  | typeOf _ hpart htype ih =>
    obtain ⟨_, hj⟩ := ih
    obtain ⟨_, htypes⟩ := RecordForm.exists_of_part (fun _ _ => rfl) hj hpart
    exact exists_of_listOf htypes _ htype
  | rootOf _ hpart hroot ih =>
    obtain ⟨_, hj⟩ := ih
    obtain ⟨_, hvalue⟩ := RecordForm.exists_of_part (fun _ _ => rfl) hj hpart
    exact exists_of_optional hvalue hroot
  | attributeOf _ hpart ha ih =>
    obtain ⟨_, hj⟩ := ih
    obtain ⟨_, hattributes⟩ := RecordForm.exists_of_part (fun _ _ => rfl) hj hpart
    exact exists_of_listOf hattributes _ ha
  | childOf _ hpart hchild ih =>
    obtain ⟨_, hj⟩ := ih
    obtain ⟨_, hchildren⟩ := RecordForm.exists_of_part (fun _ _ => rfl) hj hpart
    exact exists_of_listOf hchildren _ hchild
  | attributeType _ hpart ih =>
    obtain ⟨_, hj⟩ := ih
    obtain ⟨_, htype⟩ := RecordForm.exists_of_part (fun _ _ => rfl) hj hpart
    exact accepts_valueType htype
  | childType _ hpart ih =>
    obtain ⟨_, hj⟩ := ih
    obtain ⟨_, htype⟩ := RecordForm.exists_of_part (fun _ _ => rfl) hj hpart
    exact accepts_valueType htype
  | itemOf _ hkind hlist hpart hitem ih =>
    obtain ⟨_, hj⟩ := ih
    exact DeclaredType.exists_ofValue_of_item hj hkind hlist hpart hitem

end Part

/-! ## Accepted schemas -/

namespace Schema

variable {text : String}

/-- A text that is accepted as a schema is JSON, and its value is accepted. -/
theorem exists_accepts_of_parse {s : Schema} (h : Schema.parse text = .ok s) :
    ∃ j, Json.parse text = .ok j ∧ Part.document.Accepts j := by
  unfold Schema.parse at h
  cases hdecode : (Json.read text).decode Schema.form.decoder with
  | error fault =>
    rw [hdecode] at h
    cases h
  | ok s' =>
    obtain ⟨j, hj, hs⟩ := exists_parse_of_decode faultless_decoder hdecode
    exact ⟨j, hj, s', hs⟩

/-- A text that is not accepted as a schema is refused for its JSON. -/
theorem parseBindings_eq_error {e : Error} (h : Schema.parse text = .error e) :
    ∃ fault, parseBindings text = .error (.json fault) := by
  have hparse : ∃ fault, Schema.parse text = .error (.json fault) := by
    unfold Schema.parse at h ⊢
    cases hdecode : (Json.read text).decode Schema.form.decoder with
    | ok s =>
      rw [hdecode] at h
      cases h
    | error fault => exact ⟨fault, rfl⟩
  obtain ⟨fault, hparse⟩ := hparse
  refine ⟨fault, ?_⟩
  rw [parseBindings, hparse, error_bind]

/-- Every object that is read as a part of an accepted schema has only the declared keys, and each
of them at most once, unless it is a boolean type. Other texts are refused for their JSON. Of a
boolean type nothing is read but its kind, so that the rest may be anything. -/
theorem keysDeclared_of_parseBindings (text : String) :
    (∀ r, parseBindings text = .ok r → ∃ j, Json.parse text = .ok j ∧
      ∀ part members, Part.ReadAs j part (.object members) →
        part.KeysDeclared members ∨ part = .valueType ∧ DeclaredType.IsBoolean members) ∧
    (∀ j part members, Json.parse text = .ok j → Part.ReadAs j part (.object members) →
      ¬ part.KeysDeclared members → ¬ (part = .valueType ∧ DeclaredType.IsBoolean members) →
        ∃ fault, parseBindings text = .error (.json fault)) ∧
    (∀ textFault, Json.parse text = .error textFault →
      ∃ fault, parseBindings text = .error (.json fault)) ∧
    ∀ members, DeclaredType.kindMembers members = [(DeclaredType.kindKey, .string "boolean")] →
      DeclaredType.decoder (toDraft (.object members)) = .ok .boolean ∧
        DeclaredType.ofValue (.object members) = .ok .boolean := by
  have haccepted : ∀ s, Schema.parse text = .ok s → ∃ j, Json.parse text = .ok j ∧
      ∀ part members, Part.ReadAs j part (.object members) →
        part.KeysDeclared members ∨ part = .valueType ∧ DeclaredType.IsBoolean members := by
    intro s hs
    obtain ⟨j, hj, haccepts⟩ := exists_accepts_of_parse hs
    refine ⟨j, hj, ?_⟩
    intro part members hread
    exact Part.keysDeclared_of_accepts (Part.accepts_of_readAs hread haccepts)
  refine ⟨?_, ?_, ?_, ?_⟩
  · intro r hr
    obtain ⟨s, hs, _⟩ := bind_eq_ok_iff.1 hr
    exact haccepted s hs
  · intro j part members hj hread hkeys hboolean
    cases hs : Schema.parse text with
    | error e => exact parseBindings_eq_error hs
    | ok s =>
      obtain ⟨j', hj', hall⟩ := haccepted s hs
      cases Except.ok.inj (hj.symm.trans hj')
      rcases hall part members hread with hdeclared | htype
      · exact absurd hdeclared hkeys
      · exact absurd htype hboolean
  · intro textFault hfault
    cases hs : Schema.parse text with
    | error e => exact parseBindings_eq_error hs
    | ok s =>
      obtain ⟨j, hj, _⟩ := haccepted s hs
      rw [hj] at hfault
      cases hfault
  · intro members hone
    have hboolean : DeclaredType.IsBoolean members := ⟨_, hone, .word (by decide)⟩
    exact ⟨DeclaredType.decoder_of_boolean hone, DeclaredType.ofValue_of_isBoolean hboolean⟩

end Schema

/-! ## Keys of a wardrobe -/

namespace Wardrobe

def buttonTypeMembers : List (String × Json) :=
  [("type", .string "Button"), ("kind", .string "element")]

/-- The buttons of a shirt are a list, and its items have a type. -/
theorem readAs_buttonType : Part.ReadAs json .valueType (.object buttonTypeMembers) := by
  have hshirt : Part.ReadAs json .typeDeclaration shirtJson :=
    .typeOf .document List.mem_cons_self List.mem_cons_self
  have hbuttons : Part.ReadAs json .childDeclaration buttonsJson :=
    .childOf hshirt List.mem_cons_self List.mem_cons_self
  refine .itemOf (.childType hbuttons List.mem_cons_self)
    (List.mem_cons_of_mem _ List.mem_cons_self) (.word (by decide)) List.mem_cons_self ?_
  simp

end Wardrobe

/-! ## Misspelled keys

A page has an attribute with a misspelled key in its type. -/

namespace Misspelled

def typeMembers (kind : String) : List (String × Json) :=
  [("kind", .string kind), ("nmae", .string "open")]

def attributeJson (kind : String) : Json :=
  .object [("accessor", .string "isOpen"), ("type", .object (typeMembers kind))]

def pageJson (kind : String) : Json :=
  .object [("name", .string "Page"), ("attributes", .array [attributeJson kind])]

def json (kind : String) : Json := .object [("types", .array [pageJson kind])]

theorem readAs_valueType (kind : String) :
    Part.ReadAs (json kind) .valueType (.object (typeMembers kind)) := by
  have htype : Part.ReadAs (json kind) .typeDeclaration (pageJson kind) :=
    .typeOf .document List.mem_cons_self List.mem_cons_self
  have hattribute : Part.ReadAs (json kind) .attributeDeclaration (attributeJson kind) :=
    .attributeOf htype (List.mem_cons_of_mem _ List.mem_cons_self) List.mem_cons_self
  exact .attributeType hattribute (List.mem_cons_of_mem _ List.mem_cons_self)

/-- No kind has a field of this name. -/
theorem not_keysDeclared (kind : String) : ¬ Part.valueType.KeysDeclared (typeMembers kind) := by
  rintro ⟨found, _, _, _, hkeys⟩
  have hmem : "nmae" ∈ found.keys := hkeys.mem _ (List.mem_cons_of_mem _ List.mem_cons_self)
  revert hmem
  cases found with
  | list => decide
  | plain kind => cases kind <;> decide

theorem isTextOf_json (kind : String) : IsTextOf ((json kind).text .indented) (json kind) :=
  isTextOf_text (plain_of_isPlain rfl) .indented

theorem not_isBoolean_scalar : ¬ DeclaredType.IsBoolean (typeMembers "scalar") := by
  have hnamed : DeclaredType.Kind.NamedBy (.plain .scalar) (.string "scalar") :=
    .word (by decide)
  exact DeclaredType.not_isBoolean rfl hnamed (by decide)

/-- A wardrobe is accepted, and so the type of its buttons has declared keys only; a scalar with a
misspelled key is refused, and so is a text that is no JSON; a boolean with the same key is a
boolean nevertheless. -/
theorem keysDeclared_of_parseBindings_wardrobe :
    (∃ r j, parseBindings (Wardrobe.json.text .indented) = .ok r ∧
      Json.parse (Wardrobe.json.text .indented) = .ok j ∧
      Part.ReadAs j .valueType (.object Wardrobe.buttonTypeMembers) ∧
      (Part.valueType.KeysDeclared Wardrobe.buttonTypeMembers ∨
        DeclaredType.IsBoolean Wardrobe.buttonTypeMembers)) ∧
    (∃ fault, parseBindings ((json "scalar").text .indented) = .error (.json fault)) ∧
    (∃ fault, parseBindings "" = .error (.json fault)) ∧
    DeclaredType.decoder (toDraft (.object (typeMembers "boolean"))) = .ok .boolean := by
  refine ⟨?_, ?_, ?_, ?_⟩
  · obtain ⟨r, hr, _⟩ := Wardrobe.exists_parseBindings
    obtain ⟨j, hj, hall⟩ := (Schema.keysDeclared_of_parseBindings _).1 r hr
    have hparse := parse_of_isTextOf Wardrobe.isTextOf_json
    cases Except.ok.inj (hj.symm.trans hparse)
    have hkeys := hall _ _ Wardrobe.readAs_buttonType
    exact ⟨r, _, hr, hj, Wardrobe.readAs_buttonType, hkeys.imp_right And.right⟩
  · have hparse := parse_of_isTextOf (isTextOf_json "scalar")
    apply (Schema.keysDeclared_of_parseBindings _).2.1 _ _ _ hparse (readAs_valueType "scalar")
      (not_keysDeclared "scalar")
    rintro ⟨_, hboolean⟩
    exact not_isBoolean_scalar hboolean
  · have hparse : Json.parse "" = .error .ended := by rfl
    exact (Schema.keysDeclared_of_parseBindings "").2.2.1 _ hparse
  · have hone : DeclaredType.kindMembers (typeMembers "boolean") =
        [(DeclaredType.kindKey, .string "boolean")] := rfl
    exact ((Schema.keysDeclared_of_parseBindings "").2.2.2 _ hone).1

/-- An accepted schema may have a key that is not declared. -/
theorem not_forall_keysDeclared : ¬ ∀ text r, parseBindings text = .ok r →
    ∃ j, Json.parse text = .ok j ∧ ∀ part members, Part.ReadAs j part (.object members) →
      part.KeysDeclared members := by
  intro h
  obtain ⟨r, hr⟩ : ∃ r, parseBindings ((json "boolean").text .indented) = .ok r := by
    rw [parseBindings, Schema.parse, Json.read_of_isTextOf (isTextOf_json "boolean")]
    exact ⟨_, rfl⟩
  obtain ⟨j, hj, hall⟩ := h _ r hr
  rw [parse_of_isTextOf (isTextOf_json "boolean")] at hj
  cases hj
  exact not_keysDeclared "boolean" (hall _ _ (readAs_valueType "boolean"))

end Misspelled

end TagGrammar
