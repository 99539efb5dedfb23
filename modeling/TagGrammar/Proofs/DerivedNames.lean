import TagGrammar.Proofs.Refusals

/-!
# Names derived from ordinary identifiers

An identifier is ordinary if it is an XML Name in ASCII. What a binding derives from such an
identifier is an XML Name again, whether the identifier is an accessor, with or without a verb, or
the simple name of a type. All of it but a verb is kept, with the first letter in lower case:

* a capital behind a verb may start a name (`isStart_of_isUpper`),
* and the small form of a character that may start a name may start one too (`isStart_toLower`).

So `register` can only object to names that the binding has chosen itself
(`TypeBinding.namesValid_iff_chosenNames`).
-/

namespace TagGrammar

namespace Name

variable {c : Char} {cs verb rest : List Char}

/-! ## Characters -/

theorem isStart_of_letter (h : 65 ≤ c.toNat ∧ c.toNat ≤ 90 ∨ 97 ≤ c.toNat ∧ c.toNat ≤ 122) :
    isStart c := by
  have hrange : ('A' ≤ c ∧ c ≤ 'Z') ∨ ('a' ≤ c ∧ c ≤ 'z') := h
  rcases hrange with hletter | hletter <;>
    simp only [isStart, hletter, decide_true, Bool.and_self, Bool.or_true, Bool.true_or]

theorem isStart_of_isUpper (h : c.isUpper) : isStart c := by
  have hrange : 'A'.val ≤ c.val ∧ c.val ≤ 'Z'.val := of_decide_eq_true h
  exact isStart_of_letter (.inl hrange)

theorem isStart_toLower (h : isStart c) : isStart c.toLower := by
  unfold Char.toLower
  split
  · next hcapital =>
    -- of all characters only the capitals change, and they become small letters
    apply isStart_of_letter
    right
    have hval : 65 ≤ c.val.toNat ∧ c.val.toNat ≤ 90 := hcapital
    have hsmall : (c.val + 32).toNat = (c.val.toNat + 32) % 2 ^ 32 := UInt32.toNat_add c.val 32
    change 97 ≤ (c.val + 32).toNat ∧ (c.val + 32).toNat ≤ 122
    omega
  · exact h

theorem isRest_of_isStart (h : isStart c) : isRest c := by
  simp [isRest, h]

theorem isRest_of_mem (h : isValidChars cs) : ∀ c ∈ cs, isRest c := by
  cases cs with
  | nil => simp
  | cons d cs =>
    simp only [isValidChars, Bool.and_eq_true, List.all_eq_true] at h
    exact List.forall_mem_cons.2 ⟨isRest_of_isStart h.1, h.2⟩

/-! ## Ordinary identifiers -/

/-- The characters are ASCII and form an XML Name. -/
structure IsOrdinaryChars (cs : List Char) : Prop where
  ascii : ∀ c ∈ cs, c.toNat < 128
  valid : isValidChars cs

/-- The identifier is an XML Name in ASCII. -/
def IsOrdinary (s : String) : Prop := IsOrdinaryChars s.toList

instance (s : String) : Decidable (IsOrdinary s) :=
  decidable_of_iff (s.toList.all (fun c => decide (c.toNat < 128)) ∧ isValidChars s.toList)
    ⟨fun h => ⟨by simpa using h.1, h.2⟩, fun h => ⟨by simpa using h.ascii, h.valid⟩⟩

theorem eq_append_of_afterVerb? (h : afterVerb? verb cs = some rest) :
    cs = verb ++ rest ∧ ∃ c tail, rest = c :: tail ∧ Text.isUppercase c := by
  unfold afterVerb? at h
  split at h
  · next hverb =>
    obtain ⟨after, rfl⟩ := List.isPrefixOf_iff_prefix.1 hverb
    rw [List.drop_left] at h
    cases after with
    | nil => simp at h
    | cons c tail =>
      obtain ⟨hc, htail⟩ := Option.ite_none_right_eq_some.1 h
      cases htail
      exact ⟨rfl, c, tail, rfl, hc⟩
  · simp at h

theorem IsOrdinaryChars.afterVerb? (h : IsOrdinaryChars cs)
    (hrest : afterVerb? verb cs = some rest) : IsOrdinaryChars rest := by
  obtain ⟨rfl, c, tail, rfl, hupper⟩ := eq_append_of_afterVerb? hrest
  have hascii : ∀ d ∈ c :: tail, d.toNat < 128 := fun d hd =>
    h.ascii d (List.mem_append_right verb hd)
  have hstart : isStart c := by
    rw [Text.isUppercase_ascii (hascii c List.mem_cons_self)] at hupper
    exact isStart_of_isUpper hupper
  have htail : ∀ d ∈ tail, isRest d := fun d hd =>
    isRest_of_mem h.valid d (List.mem_append_right verb (List.mem_cons_of_mem c hd))
  exact ⟨hascii, by simpa [isValidChars, hstart] using htail⟩

theorem IsOrdinaryChars.decapitalizeChars_eq (h : IsOrdinaryChars cs) :
    ∃ c tail, cs = c :: tail ∧ decapitalizeChars cs = c.toLower :: tail := by
  obtain ⟨hascii, hvalid⟩ := h
  cases cs with
  | nil => cases hvalid
  | cons c tail =>
    refine ⟨c, tail, rfl, ?_⟩
    rw [decapitalizeChars, Text.toLowercase_ascii (hascii c List.mem_cons_self)]
    rfl

theorem IsOrdinaryChars.isValid_decapitalizeChars (h : IsOrdinaryChars cs) :
    isValidChars (decapitalizeChars cs) := by
  have hvalid := h.valid
  obtain ⟨c, tail, rfl, hlower⟩ := h.decapitalizeChars_eq
  rw [hlower]
  simp only [isValidChars, Bool.and_eq_true] at hvalid ⊢
  exact ⟨isStart_toLower hvalid.1, hvalid.2⟩

/-- A property name is derived from what is left without a verb, and that is ordinary as well. -/
theorem IsOrdinaryChars.exists_left (h : IsOrdinaryChars cs) :
    ∃ verb ∈ ["", "get", "is"], ∃ left, cs = verb.toList ++ left ∧ IsOrdinaryChars left ∧
      propertyNameChars cs = decapitalizeChars left := by
  unfold propertyNameChars
  split
  · next left hget =>
    exact ⟨"get", by simp, left, (eq_append_of_afterVerb? hget).1, h.afterVerb? hget, rfl⟩
  · cases his : Name.afterVerb? ['i', 's'] cs with
    | some left =>
      exact ⟨"is", by simp, left, (eq_append_of_afterVerb? his).1, h.afterVerb? his, rfl⟩
    | none => exact ⟨"", by simp, cs, rfl, h, rfl⟩

/-! ## Derived names -/

/-- The texts are the same but for the first letter, which is small in `t`. -/
def LowersFirst (s t : String) : Prop :=
  ∃ c tail, s.toList = c :: tail ∧ t.toList = c.toLower :: tail

theorem IsOrdinary.isValid_decapitalize {s : String} (h : IsOrdinary s) :
    isValid (decapitalize s) := by
  rw [isValid, decapitalize, String.toList_ofList]
  exact IsOrdinaryChars.isValid_decapitalizeChars h

theorem IsOrdinary.lowersFirst {s : String} (h : IsOrdinary s) :
    LowersFirst s (decapitalize s) := by
  unfold LowersFirst
  rw [decapitalize, String.toList_ofList]
  exact IsOrdinaryChars.decapitalizeChars_eq h

theorem IsOrdinary.exists_propertyName_eq {accessor : String} (h : IsOrdinary accessor) :
    ∃ verb ∈ ["", "get", "is"], ∃ left, accessor = verb ++ left ∧ IsOrdinary left ∧
      propertyName accessor = decapitalize left := by
  obtain ⟨verb, hverb, left, happend, hleft, hname⟩ := IsOrdinaryChars.exists_left h
  refine ⟨verb, hverb, String.ofList left, ?_, ?_, ?_⟩
  · rw [← String.toList_inj, String.toList_append, String.toList_ofList, happend]
  · rwa [IsOrdinary, String.toList_ofList]
  · rw [propertyName, hname, decapitalize, String.toList_ofList]

theorem isValid_propertyName {accessor : String} (h : IsOrdinary accessor) :
    isValid (propertyName accessor) := by
  obtain ⟨_, _, left, _, hleft, hname⟩ := h.exists_propertyName_eq
  rw [hname]
  exact hleft.isValid_decapitalize

/-- Beyond ASCII the small form of a letter may need a character that no name may hold. -/
example : isValid "getİd" ∧ ¬ isValid (propertyName "getİd") := by
  decide +kernel

theorem isValid_defaultTagName {type : String} (h : IsOrdinary (simpleName type)) :
    isValid (defaultTagName type) :=
  h.isValid_decapitalize

end Name

/-! ## Bindings -/

namespace TypeBinding

variable {b : TypeBinding} {n : String}

/-- The published names that the binding chooses itself. All others are derived. -/
def chosenNames (b : TypeBinding) : List String :=
  (b.root.bind (·.name)).toList ++ b.attributes.filterMap (·.name)
    ++ b.children.filterMap (·.name?)

/-- All identifiers that names are derived from are ordinary. -/
structure DerivesFromOrdinary (b : TypeBinding) : Prop where
  tag : ∀ root ∈ b.root, root.name = none → Name.IsOrdinary (Name.simpleName b.name.name)
  attributes : ∀ a ∈ b.attributes, a.name = none → Name.IsOrdinary a.accessor

instance (b : TypeBinding) : Decidable b.DerivesFromOrdinary :=
  decidable_of_iff
    ((∀ root ∈ b.root, root.name = none → Name.IsOrdinary (Name.simpleName b.name.name)) ∧
      ∀ a ∈ b.attributes, a.name = none → Name.IsOrdinary a.accessor)
    ⟨fun h => ⟨h.1, h.2⟩, fun h => ⟨h.1, h.2⟩⟩

theorem mem_publishedNames_of_mem_chosenNames (hn : n ∈ b.chosenNames) :
    n ∈ b.publishedNames := by
  unfold chosenNames at hn
  unfold publishedNames
  rcases List.mem_append.1 hn with hn | hn
  · refine List.mem_append_left _ ?_
    rcases List.mem_append.1 hn with hn | hn
    · obtain ⟨root, hroot, hname⟩ := Option.bind_eq_some_iff.1 (Option.mem_toList.1 hn)
      refine List.mem_append_left _ (Option.mem_toList.2 ?_)
      rw [tag?, hroot, Option.map_some, hname, Option.getD_some]
    · obtain ⟨a, ha, hname⟩ := List.mem_filterMap.1 hn
      refine List.mem_append_right _ (List.mem_map.2 ⟨a, ha, ?_⟩)
      rw [AttributeBinding.xmlName, hname, Option.getD_some]
  · exact List.mem_append_right _ hn

theorem DerivesFromOrdinary.chosen_or_isValid_tag (h : b.DerivesFromOrdinary)
    (hn : b.tag? = some n) : n ∈ b.chosenNames ∨ Name.isValid n := by
  obtain ⟨root, hroot, rfl⟩ := Option.map_eq_some_iff.1 hn
  cases hname : root.name with
  | none => exact .inr (Name.isValid_defaultTagName (h.tag root hroot hname))
  | some tag =>
    left
    simp [chosenNames, hroot, hname]

theorem DerivesFromOrdinary.chosen_or_isValid_xmlName {a : AttributeBinding}
    (h : b.DerivesFromOrdinary) (ha : a ∈ b.attributes) :
    a.xmlName ∈ b.chosenNames ∨ Name.isValid a.xmlName := by
  unfold AttributeBinding.xmlName
  cases hname : a.name with
  | none => exact .inr (Name.isValid_propertyName (h.attributes a ha hname))
  | some name =>
    left
    have hchosen : name ∈ b.attributes.filterMap (·.name) := List.mem_filterMap.2 ⟨a, ha, hname⟩
    exact List.mem_append_left _ (List.mem_append_right _ hchosen)

/-- Every published name is chosen by the binding or is an XML Name. -/
theorem DerivesFromOrdinary.chosen_or_isValid (h : b.DerivesFromOrdinary)
    (hn : n ∈ b.publishedNames) : n ∈ b.chosenNames ∨ Name.isValid n := by
  unfold publishedNames at hn
  rcases List.mem_append.1 hn with hn | hn
  · rcases List.mem_append.1 hn with hn | hn
    · exact h.chosen_or_isValid_tag (Option.mem_toList.1 hn)
    · obtain ⟨a, ha, rfl⟩ := List.mem_map.1 hn
      exact h.chosen_or_isValid_xmlName ha
  · exact .inl (List.mem_append_right _ hn)

theorem namesValid_iff_chosenNames (h : b.DerivesFromOrdinary) :
    b.NamesValid ↔ ∀ n ∈ b.chosenNames, Name.isValid n := by
  rw [namesValid_iff]
  constructor
  · intro hall n hn
    exact hall n (mem_publishedNames_of_mem_chosenNames hn)
  · intro hall n hn
    rcases h.chosen_or_isValid hn with hchosen | hvalid
    · exact hall n hchosen
    · exact hvalid

end TypeBinding

/-! ## Registering -/

/-- From an ordinary accessor, without the verb if there is one, and from an ordinary simple name an
XML Name is derived by writing the first letter small. So a binding that leaves names to be derived
from such identifiers only is accepted exactly if its type is new and the names of its own choice
are XML Names; and where it is refused for a name, this is one of its own choice. -/
theorem Registry.register_objects_only_to_chosen_names :
    (∀ accessor, Name.IsOrdinary accessor → Name.isValid (Name.propertyName accessor) ∧
      ∃ verb ∈ ["", "get", "is"], ∃ left, accessor = verb ++ left ∧
        Name.LowersFirst left (Name.propertyName accessor)) ∧
      (∀ type, Name.IsOrdinary (Name.simpleName type) → Name.isValid (Name.defaultTagName type) ∧
        Name.LowersFirst (Name.simpleName type) (Name.defaultTagName type)) ∧
      ∀ (r : Registry) (b : TypeBinding), b.DerivesFromOrdinary →
        ((∃ r', r.register b = (.ok (), r')) ↔
            b.name ∉ r.knownTypes ∧ ∀ n ∈ b.chosenNames, Name.isValid n) ∧
          ∀ e r', r.register b = (.error e, r') →
            (b.name ∈ r.knownTypes ∧ e = .binding ⟨.registeredTwice, some b.name.name, none⟩) ∨
              ∃ name ∈ b.chosenNames, ¬ Name.isValid name ∧ e = .name (.invalid name) := by
  refine ⟨?_, fun _ h => ⟨Name.isValid_defaultTagName h, h.lowersFirst⟩, ?_⟩
  · intro accessor h
    obtain ⟨verb, hverb, left, happend, hleft, hname⟩ := h.exists_propertyName_eq
    exact ⟨Name.isValid_propertyName h, verb, hverb, left, happend, hname ▸ hleft.lowersFirst⟩
  · intro r b hb
    constructor
    · rw [exists_register_eq_ok_iff, TypeBinding.namesValid_iff_chosenNames hb]
    · intro e r' he
      obtain rfl := eq_of_register_eq_error he
      rcases register_eq_error_iff.1 he with htwice | ⟨_, name, hfirst, rfl⟩
      · exact .inl htwice
      · obtain ⟨before, after, hnames, _, hinvalid⟩ := hfirst
        have hmem : name ∈ b.publishedNames := by simp [hnames]
        exact .inr ⟨name, (hb.chosen_or_isValid hmem).resolve_right hinvalid, hinvalid, rfl⟩

namespace Orders

/-- Derived names only, from accessors with a verb, with what only looks like one, and without. -/
def order : TypeBinding :=
  ⟨⟨"shop::model.Order"⟩, none, some ⟨none⟩,
    [⟨"getURL", none, .scalar "string"⟩, ⟨"isPaid", none, .boolean⟩,
      ⟨"issue-date", none, .scalar "string"⟩, ⟨":get", none, .scalar "string"⟩], []⟩

/-- As `order`, with a child that has a bad name of its own choice. -/
def orderWithLines : TypeBinding :=
  { order with children := [⟨"getLines", .named "1st", .element ⟨"shop::model.Line"⟩⟩] }

theorem register_order :
    (Name.IsOrdinary "getURL" ∧ Name.isValid (Name.propertyName "getURL") ∧
      ∃ verb ∈ ["", "get", "is"], ∃ left, "getURL" = verb ++ left ∧
        Name.LowersFirst left (Name.propertyName "getURL")) ∧
      (Name.IsOrdinary (Name.simpleName "shop::model.Order") ∧
        Name.isValid (Name.defaultTagName "shop::model.Order") ∧
        Name.LowersFirst (Name.simpleName "shop::model.Order")
          (Name.defaultTagName "shop::model.Order")) ∧
      (order.DerivesFromOrdinary ∧ ∃ r', Registry.empty.register order = (.ok (), r')) ∧
      orderWithLines.DerivesFromOrdinary ∧
      ∃ e r', Registry.empty.register orderWithLines = (.error e, r') ∧
        ∃ name ∈ orderWithLines.chosenNames, ¬ Name.isValid name ∧ e = .name (.invalid name) := by
  obtain ⟨haccessor, htype, hregister⟩ := Registry.register_objects_only_to_chosen_names
  have hgetURL : Name.IsOrdinary "getURL" := by decide
  have hOrder : Name.IsOrdinary (Name.simpleName "shop::model.Order") := by decide
  have horder : order.DerivesFromOrdinary := by decide
  have hlines : orderWithLines.DerivesFromOrdinary := by decide
  have hrefused : Registry.empty.register orderWithLines =
      (.error (.name (.invalid "1st")), .empty) := by
    decide +kernel
  refine ⟨⟨hgetURL, haccessor _ hgetURL⟩, ⟨hOrder, htype _ hOrder⟩, ⟨horder, ?_⟩, hlines,
    _, _, hrefused, ?_⟩
  · exact (hregister .empty order horder).1.2 ⟨by decide, by decide⟩
  · exact ((hregister .empty orderWithLines hlines).2 _ _ hrefused).resolve_left (by decide)

end Orders

end TagGrammar
