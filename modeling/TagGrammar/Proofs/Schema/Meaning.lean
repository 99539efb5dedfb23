import TagGrammar.Proofs.FallibleSteps
import TagGrammar.Proofs.Lookup
import TagGrammar.Proofs.Registration
import TagGrammar.Proofs.Schema.ReadBack

/-!
# What schemas mean

Every declaration means a binding (`TypeDeclaration.meaning`), whether or not it can be bound: an
enumeration stands for its members, a derived name is written out, and all else is kept. Binding
gives this meaning or nothing at all, so it remains to say when it succeeds.

Faults are found in three stages, the first two of which alternate from type to type: a declaration
cannot be bound, a binding cannot be registered, and the whole registry is not valid. For a schema
to be accepted it makes no difference at which stage a fault would be found
(`registerTypes_eq_ok_iff`), and `Schema.WellFormed` lists what is asked of the schema as a whole.

    parseBindings_iff_wellFormed : Schema.parse text = .ok s →
      ((∃ r, parseBindings text = .ok r) ↔ s.WellFormed) ∧
        ∀ r, parseBindings text = .ok r → r.bindings = s.types.map (·.meaning s.enums)
-/

namespace TagGrammar

/-! ## The meaning of declarations -/

namespace DeclaredType

/-- The enumeration to which a type refers, behind any number of lists. -/
def enumeration? : DeclaredType → Option String
  | .enumeration name => some name
  | .list item => item.enumeration?
  | .boolean | .scalar _ | .element _ | .erasedList => none

/-- The type with the members of enumerations in place. An unknown enumeration has none. -/
def meaning (enums : Enums) : DeclaredType → ValueType
  | .boolean => .boolean
  | .enumeration name => .enumeration name ((enums.get? name).getD [])
  | .scalar name => .scalar name
  | .element name => .element ⟨name⟩
  | .list item => .list (item.meaning enums)
  | .erasedList => .erasedList

/-- The enumeration of the type is declared, if it refers to one. -/
def Known (enums : Enums) (type : DeclaredType) : Prop :=
  ∀ name, type.enumeration? = some name → name ∈ enums.keys

end DeclaredType

def AttributeDeclaration.meaning (enums : Enums) (a : AttributeDeclaration) : AttributeBinding :=
  ⟨a.accessor, a.name, a.type.meaning enums⟩

namespace ChildDeclaration

/-- The name of a named child, chosen or derived. -/
def elementName (c : ChildDeclaration) : String := c.name.getD (Name.propertyName c.accessor)

def meaning (enums : Enums) (c : ChildDeclaration) : ChildBinding where
  accessor := c.accessor
  kind :=
    match c.kind with
    | .reference => .reference
    | .named => .named c.elementName
  valueType := c.type.meaning enums

end ChildDeclaration

namespace TypeDeclaration

def meaning (enums : Enums) (t : TypeDeclaration) : TypeBinding where
  name := ⟨t.name⟩
  supertype := t.supertype.map .mk
  root := t.root
  attributes := t.attributes.map (·.meaning enums)
  children := t.children.map (·.meaning enums)

/-- The types of attributes and children. -/
def declaredTypes (t : TypeDeclaration) : List DeclaredType :=
  t.attributes.map (·.type) ++ t.children.map (·.type)

/-- The names that the declaration chooses or leaves to be derived: its tag, its attributes, its
named children. -/
def names (t : TypeDeclaration) : List String :=
  (t.root.map fun root => root.name.getD (Name.defaultTagName t.name)).toList
    ++ t.attributes.map (fun a => a.name.getD (Name.propertyName a.accessor))
    ++ (t.children.filter (·.kind = .named)).map (·.elementName)

end TypeDeclaration

namespace Schema

theorem nodup_names_meaning {s : Schema} (h : (s.types.map (·.name)).Nodup) :
    ((s.types.map (·.meaning s.enums)).map (·.name)).Nodup := by
  have hnames : (s.types.map (·.meaning s.enums)).map (·.name) =
      (s.types.map (·.name)).map TypeName.mk := by
    simp [TypeDeclaration.meaning]
  rw [hnames]
  exact h.map fun _ _ heq => TypeName.mk.inj heq

/-- The registry of all declared types. -/
def meaning (s : Schema) (h : (s.types.map (·.name)).Nodup) : Registry :=
  ⟨s.types.map (·.meaning s.enums), nodup_names_meaning h⟩

/-- What is asked of a schema. -/
structure WellFormed (s : Schema) : Prop where
  nodup_names : (s.types.map (·.name)).Nodup
  /-- Every enumeration is declared. -/
  known : ∀ t ∈ s.types, ∀ type ∈ t.declaredTypes, type.Known s.enums
  /-- A reference has no name of its own. -/
  unnamed : ∀ t ∈ s.types, ∀ c ∈ t.children, c.kind = .reference → c.name = none
  names : ∀ t ∈ s.types, ∀ n ∈ t.names, Name.isValid n
  valid : (s.meaning nodup_names).validate = .ok ()

end Schema

/-! ## Binding -/

theorem DeclaredType.resolve_gives (enums : Enums) (owner accessor : String)
    (type : DeclaredType) :
    GivesIff (type.resolve enums owner accessor) (type.Known enums) (type.meaning enums) := by
  induction type with
  | boolean | scalar _ | element _ | erasedList => exact .ok fun _ h => by cases h
  | list item ih => exact ih.map
  | enumeration name =>
    have hknown : (enumeration name).Known enums ↔ name ∈ enums.keys := by
      simp [Known, enumeration?]
    rw [resolve, meaning]
    split
    · next variants h =>
      rw [h]
      exact .ok (hknown.2 (OrderedMap.mem_keys_iff.2 ⟨variants, h⟩))
    · next h =>
      refine .error fun hmem => ?_
      obtain ⟨variants, hsome⟩ := OrderedMap.mem_keys_iff.1 (hknown.1 hmem)
      rw [h] at hsome
      cases hsome

theorem AttributeDeclaration.bind_gives (enums : Enums) (owner : String)
    (a : AttributeDeclaration) :
    GivesIff (a.bind enums owner) (a.type.Known enums) (a.meaning enums) :=
  (a.type.resolve_gives enums owner a.accessor).map

namespace ChildDeclaration

theorem bindKind_gives (enums : Enums) (owner : String) (c : ChildDeclaration) :
    GivesIff (c.bindKind owner) (c.kind = .reference → c.name = none) (c.meaning enums).kind := by
  obtain ⟨accessor, kind, name, type⟩ := c
  cases kind with
  | named => exact .ok (by simp)
  | reference =>
    cases name with
    | none => exact .ok (by simp)
    | some name => exact .error (by simp)

theorem bind_gives (enums : Enums) (owner : String) (c : ChildDeclaration) :
    GivesIff (c.bind enums owner)
      (c.type.Known enums ∧ (c.kind = .reference → c.name = none)) (c.meaning enums) := by
  refine (c.type.resolve_gives enums owner c.accessor).bind ?_
  exact (c.bindKind_gives enums owner).map

end ChildDeclaration

namespace TypeDeclaration

/-- What is asked of a declaration by itself. -/
structure Bindable (enums : Enums) (t : TypeDeclaration) : Prop where
  known : ∀ type ∈ t.declaredTypes, type.Known enums
  unnamed : ∀ c ∈ t.children, c.kind = .reference → c.name = none

theorem bindable_iff {enums : Enums} {t : TypeDeclaration} :
    ((∀ a ∈ t.attributes, a.type.Known enums) ∧
        ∀ c ∈ t.children, c.type.Known enums ∧ (c.kind = .reference → c.name = none)) ↔
      t.Bindable enums := by
  constructor
  · rintro ⟨hattributes, hchildren⟩
    refine ⟨fun type htype => ?_, fun c hc => (hchildren c hc).2⟩
    rcases List.mem_append.1 htype with h | h
    · obtain ⟨a, ha, rfl⟩ := List.mem_map.1 h
      exact hattributes a ha
    · obtain ⟨c, hc, rfl⟩ := List.mem_map.1 h
      exact (hchildren c hc).1
  · rintro ⟨hknown, hunnamed⟩
    refine ⟨fun a ha => ?_, fun c hc => ⟨?_, hunnamed c hc⟩⟩
    · exact hknown _ (List.mem_append_left _ (List.mem_map_of_mem ha))
    · exact hknown _ (List.mem_append_right _ (List.mem_map_of_mem hc))

theorem bind_gives (enums : Enums) (t : TypeDeclaration) :
    GivesIff (t.bind enums) (t.Bindable enums) (t.meaning enums) := by
  have hattributes := GivesIff.mapM fun a (_ : a ∈ t.attributes) => a.bind_gives enums t.name
  have hchildren := GivesIff.mapM fun c (_ : c ∈ t.children) => c.bind_gives enums t.name
  exact (hattributes.bind hchildren.map).congr bindable_iff

/-- The names of a declaration are the names that its binding publishes. -/
theorem publishedNames_meaning (enums : Enums) (t : TypeDeclaration) :
    (t.meaning enums).publishedNames = t.names := by
  have hattributes : (t.attributes.map (·.meaning enums)).map (·.xmlName) =
      t.attributes.map fun a => a.name.getD (Name.propertyName a.accessor) := by
    rw [List.map_map]
    rfl
  have hchildren : (t.children.map (·.meaning enums)).filterMap (·.name?) =
      (t.children.filter (·.kind = .named)).map (·.elementName) := by
    induction t.children with
    | nil => rfl
    | cons c children ih =>
      cases hkind : c.kind with
      | reference => simpa [ChildDeclaration.meaning, ChildBinding.name?, hkind] using ih
      | named => simpa [ChildDeclaration.meaning, ChildBinding.name?, hkind] using ih
  rw [TypeBinding.publishedNames, names, meaning, hattributes, hchildren]
  rfl

end TypeDeclaration

/-! ## Registering -/

namespace Schema

variable {s : Schema} {r : Registry}

/-- Types that are bound and registered in turn might as well be bound first. -/
theorem registerTypes_eq_ok_iff {enums : Enums} {r r' : Registry} {types : List TypeDeclaration} :
    registerTypes enums r types = .ok r' ↔ (∀ t ∈ types, t.Bindable enums) ∧
      r.registerAll (types.map (·.meaning enums)) = .ok r' := by
  induction types generalizing r with
  | nil => simp [registerTypes, Registry.registerAll]
  | cons t types ih =>
    rw [registerTypes, List.map_cons, Registry.registerAll, List.forall_mem_cons, bind_eq_ok_iff,
      bind_eq_ok_iff]
    constructor
    · rintro ⟨b, hb, h⟩
      obtain ⟨hbindable, rfl⟩ := (t.bind_gives enums b).1 hb
      obtain ⟨r₁, hr₁, htypes⟩ := bind_eq_ok_iff.1 h
      obtain ⟨hrest, hall⟩ := ih.1 htypes
      exact ⟨⟨hbindable, hrest⟩, r₁, hr₁, hall⟩
    · rintro ⟨⟨hbindable, hrest⟩, r₁, hr₁, hall⟩
      refine ⟨t.meaning enums, (t.bind_gives enums _).2 ⟨hbindable, rfl⟩, ?_⟩
      exact bind_eq_ok_iff.2 ⟨r₁, hr₁, ih.2 ⟨hrest, hall⟩⟩

/-- A schema is turned into a registry exactly if it is the registry of all declared types, and
there is nothing wrong with any of these, nor with the registry. -/
theorem toRegistry_eq_ok_iff : s.toRegistry = .ok r ↔
    (∀ t ∈ s.types, t.Bindable s.enums) ∧ (∀ t ∈ s.types, ∀ n ∈ t.names, Name.isValid n) ∧
      r.bindings = s.types.map (·.meaning s.enums) ∧ r.validate = .ok () := by
  have hnames : (∀ b ∈ s.types.map (·.meaning s.enums), ∀ n ∈ b.publishedNames, Name.isValid n) ↔
      ∀ t ∈ s.types, ∀ n ∈ t.names, Name.isValid n := by
    simp [TypeDeclaration.publishedNames_meaning]
  have hregister : registerTypes s.enums .empty s.types = .ok r ↔
      (∀ t ∈ s.types, t.Bindable s.enums) ∧ (∀ t ∈ s.types, ∀ n ∈ t.names, Name.isValid n) ∧
        r.bindings = s.types.map (·.meaning s.enums) := by
    rw [registerTypes_eq_ok_iff, Registry.registerAll_eq_ok_iff, hnames]
    rfl
  have hvalidate : s.toRegistry = .ok r ↔
      registerTypes s.enums .empty s.types = .ok r ∧ r.validate = .ok () := by
    rw [toRegistry, bind_eq_ok_iff]
    constructor
    · rintro ⟨r', hr', h⟩
      obtain ⟨_, hvalid, ⟨⟩⟩ := bind_eq_ok_iff.1 h
      exact ⟨hr', hvalid⟩
    · rintro ⟨hr, hvalid⟩
      exact ⟨r, hr, bind_eq_ok_iff.2 ⟨(), hvalid, rfl⟩⟩
  rw [hvalidate, hregister, and_assoc, and_assoc]

theorem nodup_names_of_bindings (h : r.bindings = s.types.map (·.meaning s.enums)) :
    (s.types.map (·.name)).Nodup := by
  have hnodup := r.nodup_names
  rw [h, List.map_map] at hnodup
  have hnames : (TypeBinding.name ∘ (·.meaning s.enums)) = TypeName.mk ∘ TypeDeclaration.name := rfl
  rw [hnames, ← List.map_map] at hnodup
  exact hnodup.of_map _

theorem eq_meaning_of_bindings (h : r.bindings = s.types.map (·.meaning s.enums)) :
    r = s.meaning (nodup_names_of_bindings h) := by
  cases r
  cases h
  rfl

/-- What a schema is turned into is what it means, and this exactly if it is well-formed. -/
theorem toRegistry_eq_ok_iff_meaning : s.toRegistry = .ok r ↔
    ∃ h : s.WellFormed, r = s.meaning h.nodup_names := by
  rw [toRegistry_eq_ok_iff]
  constructor
  · rintro ⟨hbindable, hnames, hbindings, hvalid⟩
    have hmeaning := eq_meaning_of_bindings hbindings
    rw [hmeaning] at hvalid
    have hwell : s.WellFormed := {
      nodup_names := nodup_names_of_bindings hbindings
      known := fun t ht => (hbindable t ht).known
      unnamed := fun t ht => (hbindable t ht).unnamed
      names := hnames
      valid := hvalid }
    exact ⟨hwell, hmeaning⟩
  · rintro ⟨h, rfl⟩
    exact ⟨fun t ht => ⟨h.known t ht, h.unnamed t ht⟩, h.names, rfl, h.valid⟩

/-- A text of a schema is accepted exactly if the schema is well-formed, and then the bindings of
the registry are those that the types mean, in their order. -/
theorem parseBindings_iff_wellFormed {text : String} (hparse : Schema.parse text = .ok s) :
    ((∃ r, parseBindings text = .ok r) ↔ s.WellFormed) ∧
      ∀ r, parseBindings text = .ok r → r.bindings = s.types.map (·.meaning s.enums) := by
  have hregistry : parseBindings text = s.toRegistry := by
    rw [parseBindings, hparse]
    rfl
  simp only [hregistry, toRegistry_eq_ok_iff_meaning]
  constructor
  · constructor
    · rintro ⟨_, h, _⟩
      exact h
    · intro h
      exact ⟨_, h, rfl⟩
  · rintro r ⟨_, rfl⟩
    rfl

end Schema

/-! ## The meaning of a wardrobe -/

namespace Wardrobe

/-- The wardrobe with its enumerations as they are written. -/
def written : Schema where
  enums := ⟨[("Tone", []), ("Size", ["SMALL", "LARGE", "SMALL"])], by decide⟩
  types := [shirt, button]

theorem parse_json : Schema.parse (json.text .indented) = .ok written := by
  rw [Schema.parse, Json.read_of_isTextOf isTextOf_json]
  rfl

theorem wellFormed_written : written.WellFormed where
  nodup_names := by decide
  known := by
    have hall : ∀ t ∈ written.types, ∀ type ∈ t.declaredTypes,
        ∀ name ∈ type.enumeration?, name ∈ written.enums.keys := by decide
    exact hall
  unnamed := by decide
  names := by decide +kernel
  valid := Registry.validate_eq_ok_iff.2 (by decide +kernel)

theorem exists_parseBindings : ∃ r, parseBindings (json.text .indented) = .ok r ∧
    r.bindings = [shirtBinding, buttonBinding] := by
  refine ⟨written.meaning wellFormed_written.nodup_names, ?_, rfl⟩
  rw [parseBindings, parse_json]
  exact Schema.toRegistry_eq_ok_iff_meaning.2 ⟨wellFormed_written, rfl⟩

theorem parseBindings_written : Schema.parse (json.text .indented) = .ok written ∧
    ∃ r, parseBindings (json.text .indented) = .ok r ∧
      r.bindings = [shirtBinding, buttonBinding] := by
  obtain ⟨hiff, hbindings⟩ := Schema.parseBindings_iff_wellFormed parse_json
  obtain ⟨r, hr⟩ := hiff.2 wellFormed_written
  exact ⟨parse_json, r, hr, hbindings r hr⟩

end Wardrobe

end TagGrammar
