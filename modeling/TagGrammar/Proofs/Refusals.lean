import Mathlib.Data.List.Induction
import TagGrammar.Proofs.PublishedNames

/-!
# Registering is all or nothing

A call of `register` is accepted if the type is new and all names of the binding are XML Names.
Then the binding comes behind all others; otherwise the registry stays as it was, and the error says
that the type is there already or, if it is not, which name is the first to be invalid
(`register_eq_error_iff`).

So the registry that calls lead to can be told from the calls. Its bindings are those that were
accepted, in order (`bindings_ofCalls`), and the binding of a type is the first one of this type
whose names are valid, whatever else was tried before (`get?_ofCalls`).
-/

namespace TagGrammar

/-! ## Names of a binding -/

/-- All names that the binding brings into documents are XML Names: its tag, chosen or derived, the
names of its attributes, and those of its named children. -/
structure TypeBinding.NamesValid (b : TypeBinding) : Prop where
  tag : ∀ tag, b.tag? = some tag → Name.isValid tag
  attributes : ∀ a ∈ b.attributes, Name.isValid a.xmlName
  children : ∀ c ∈ b.children, ∀ name, c.kind = .named name → Name.isValid name

theorem ChildBinding.name?_eq_some_iff {c : ChildBinding} {name : String} :
    c.name? = some name ↔ c.kind = .named name := by
  unfold name?
  cases c.kind <;> simp

theorem TypeBinding.namesValid_iff {b : TypeBinding} :
    b.NamesValid ↔ ∀ n ∈ b.publishedNames, Name.isValid n := by
  unfold publishedNames
  simp only [List.forall_mem_append, List.mem_filterMap, ChildBinding.name?_eq_some_iff]
  constructor
  · intro h
    refine ⟨⟨?_, ?_⟩, ?_⟩
    · intro n hn
      exact h.tag n (Option.mem_toList.1 hn)
    · intro n hn
      obtain ⟨a, ha, rfl⟩ := List.mem_map.1 hn
      exact h.attributes a ha
    · rintro n ⟨c, hc, hkind⟩
      exact h.children c hc n hkind
  · rintro ⟨⟨htag, hattributes⟩, hchildren⟩
    constructor
    · intro tag htag'
      exact htag tag (Option.mem_toList.2 htag')
    · intro a ha
      exact hattributes _ (List.mem_map_of_mem ha)
    · intro c hc name hkind
      exact hchildren name ⟨c, hc, hkind⟩

instance (b : TypeBinding) : Decidable b.NamesValid :=
  decidable_of_iff _ TypeBinding.namesValid_iff.symm

/-- The name is the first one of the binding that is no XML Name; the tag comes before the
attributes, and these before the children. -/
def TypeBinding.FirstInvalid (b : TypeBinding) (name : String) : Prop :=
  ∃ before after, b.publishedNames = before ++ name :: after ∧ (∀ n ∈ before, Name.isValid n) ∧
    ¬ Name.isValid name

theorem TypeBinding.firstInvalid_iff {b : TypeBinding} {name : String} :
    b.FirstInvalid name ↔ b.publishedNames.find? (!Name.isValid ·) = some name := by
  rw [List.find?_eq_some_iff_append]
  constructor
  · rintro ⟨before, after, hsplit, hbefore, hname⟩
    exact ⟨by simp [hname], before, after, hsplit, by simpa using hbefore⟩
  · rintro ⟨hname, before, after, hsplit, hbefore⟩
    exact ⟨before, after, hsplit, by simpa using hbefore, by simpa using hname⟩

namespace Registry

variable {r : Registry} {b : TypeBinding} {calls : List TypeBinding} {type : TypeName}

/-! ## One call -/

/-- The call is accepted exactly if the type is new and all names are valid. -/
theorem exists_register_eq_ok_iff :
    (∃ r', r.register b = (.ok (), r')) ↔ b.name ∉ r.knownTypes ∧ b.NamesValid := by
  simp only [register_eq_ok_iff, TypeBinding.namesValid_iff]
  constructor
  · rintro ⟨r', hnew, hnames, _⟩
    exact ⟨hnew, hnames⟩
  · rintro ⟨hnew, hnames⟩
    exact ⟨⟨r.bindings ++ [b], nodup_names_append r.nodup_names hnew⟩, hnew, hnames, rfl⟩

/-- The error is about the type if that is there already, whatever the names are, and about the
first invalid name otherwise. -/
theorem register_eq_error_iff {e : Error} :
    r.register b = (.error e, r) ↔
      (b.name ∈ r.knownTypes ∧ e = .binding ⟨.registeredTwice, some b.name.name, none⟩) ∨
        (b.name ∉ r.knownTypes ∧ ∃ name, b.FirstInvalid name ∧ e = .name (.invalid name)) := by
  rw [register_eq]
  unfold checkNames
  simp only [TypeBinding.firstInvalid_iff]
  split
  · next h => simp [h, eq_comm]
  · next h =>
    cases hinvalid : b.publishedNames.find? (!Name.isValid ·) with
    | some name => simp [h, eq_comm]
    | none => simp [h]

/-! ## Histories of calls -/

/-- The bindings that are accepted by calls of `register`, in the order of the calls. -/
def acceptedFrom (r : Registry) : List TypeBinding → List TypeBinding
  | [] => []
  | b :: rest =>
    match r.register b with
    | (.ok (), r') => b :: r'.acceptedFrom rest
    | (.error _, r') => r'.acceptedFrom rest

def accepted (calls : List TypeBinding) : List TypeBinding := empty.acceptedFrom calls

theorem bindings_foldl_attempt (r : Registry) (calls : List TypeBinding) :
    (calls.foldl attempt r).bindings = r.bindings ++ r.acceptedFrom calls := by
  induction calls generalizing r with
  | nil => simp [acceptedFrom]
  | cons b rest ih =>
    rw [List.foldl_cons, ih, acceptedFrom]
    rcases h : r.register b with ⟨_ | _, r'⟩
    · rw [attempt_of_error h, eq_of_register_eq_error h]
    · obtain ⟨_, _, hbindings⟩ := register_eq_ok_iff.1 h
      rw [attempt_of_ok h, hbindings, List.append_assoc, List.singleton_append]

/-- The bindings stand in the order of the accepted calls. -/
theorem bindings_ofCalls (calls : List TypeBinding) :
    (ofCalls calls).bindings = accepted calls :=
  bindings_foldl_attempt empty calls

theorem ofCalls_concat (calls : List TypeBinding) (b : TypeBinding) :
    ofCalls (calls ++ [b]) = (ofCalls calls).attempt b := by
  unfold ofCalls
  rw [List.foldl_append]
  rfl

theorem get?_eq_none_iff : r.get? type = none ↔ type ∉ r.knownTypes := by
  rw [mem_knownTypes_iff, Option.eq_none_iff_forall_ne_some, not_exists]

/-- One more call matters only for a type that has no binding yet. -/
theorem get?_attempt (r : Registry) (b : TypeBinding) (type : TypeName) :
    (r.attempt b).get? type =
      (r.get? type).or (if b.name = type ∧ b.NamesValid then some b else none) := by
  rcases h : r.register b with ⟨_ | _, r'⟩
  case ok =>
    have haccepted := exists_register_eq_ok_iff.1 ⟨r', h⟩
    obtain ⟨_, _, hbindings⟩ := register_eq_ok_iff.1 h
    rw [attempt_of_ok h, get?, hbindings, List.find?_append]
    by_cases htype : b.name = type <;> simp [get?, htype, haccepted.2]
  case error =>
    have hrefused : ¬ (b.name ∉ r.knownTypes ∧ b.NamesValid) := by
      rw [← exists_register_eq_ok_iff, h]
      simp
    rw [attempt_of_error h]
    cases hget : r.get? type with
    | some c => rfl
    | none =>
      rw [if_neg, Option.none_or]
      rintro ⟨rfl, hnames⟩
      exact hrefused ⟨get?_eq_none_iff.1 hget, hnames⟩

/-- The binding of a type is the first one that was tried for it with valid names. -/
theorem get?_ofCalls (calls : List TypeBinding) (type : TypeName) :
    (ofCalls calls).get? type =
      calls.find? fun b => decide (b.name = type ∧ b.NamesValid) := by
  induction calls using List.reverseRecOn with
  | nil => rfl
  | append_singleton calls b ih =>
    rw [ofCalls_concat, get?_attempt, ih, List.find?_append]
    congr 1
    by_cases h : b.name = type ∧ b.NamesValid <;> simp [h]

/-- After any calls, accepted or refused, one more call is accepted exactly if the type is new and
all names are valid, and then the binding comes behind all others. A refused call leaves everything
as it was, with an error about the type if that is there already, and about a name otherwise. So no
type is there twice, the bindings are those of the accepted calls in their order, each of them is
found for its type, and it is the first one that was tried for this type with valid names. -/
theorem register_all_or_nothing (calls : List TypeBinding) :
    (∀ b, ((∃ r', (ofCalls calls).register b = (.ok (), r')) ↔
          b.name ∉ (ofCalls calls).knownTypes ∧ b.NamesValid) ∧
        (∀ r', (ofCalls calls).register b = (.ok (), r') →
          ofCalls (calls ++ [b]) = r' ∧ r'.bindings = (ofCalls calls).bindings ++ [b]) ∧
        ∀ e r', (ofCalls calls).register b = (.error e, r') →
          r' = ofCalls calls ∧ ofCalls (calls ++ [b]) = r' ∧
          ((b.name ∈ (ofCalls calls).knownTypes ∧
              e = .binding ⟨.registeredTwice, some b.name.name, none⟩) ∨
            (b.name ∉ (ofCalls calls).knownTypes ∧
              ∃ name, b.FirstInvalid name ∧ e = .name (.invalid name)))) ∧
      (ofCalls calls).knownTypes.Nodup ∧ (ofCalls calls).bindings = accepted calls ∧
        (∀ b ∈ accepted calls, (ofCalls calls).get? b.name = some b) ∧
          ∀ type, (ofCalls calls).get? type =
            calls.find? fun b => decide (b.name = type ∧ b.NamesValid) := by
  refine ⟨fun b => ⟨exists_register_eq_ok_iff, ?_, ?_⟩, (ofCalls calls).nodup_names,
    bindings_ofCalls calls, ?_, get?_ofCalls calls⟩
  · intro r' h
    rw [ofCalls_concat, attempt_of_ok h]
    exact ⟨rfl, (register_eq_ok_iff.1 h).2.2⟩
  · intro e r' h
    obtain rfl := eq_of_register_eq_error h
    rw [ofCalls_concat, attempt_of_error h]
    exact ⟨rfl, rfl, register_eq_error_iff.1 h⟩
  · intro b hb
    rw [← bindings_ofCalls] at hb
    exact get?_eq_some_iff.2 ⟨hb, rfl⟩

end Registry

namespace Folders

/-- One of the refused bindings once more, now with a name that will do. -/
def mark : TypeBinding := ⟨⟨"Mark"⟩, none, some ⟨none⟩, [⟨"isSet", none, .boolean⟩], []⟩

/-- A type that is there already, with a reserved key for its tag. -/
def folderAgain : TypeBinding := ⟨folder, none, some ⟨some "!top"⟩, [], []⟩

/-- A new type with two invalid names. -/
def label : TypeBinding :=
  ⟨⟨"Label"⟩, none, some ⟨none⟩, [⟨"getText", some "1st", .scalar "string"⟩],
    [⟨"getMark", .named "", .element ⟨"Mark"⟩⟩]⟩

theorem register_after_calls :
    (∃ r', (Registry.ofCalls calls).register mark = (.ok (), r') ∧
      Registry.ofCalls (calls ++ [mark]) = r' ∧
        r'.bindings = (Registry.ofCalls calls).bindings ++ [mark]) ∧
      (∃ e r', (Registry.ofCalls calls).register folderAgain = (.error e, r') ∧
        r' = .ofCalls calls ∧ Registry.ofCalls (calls ++ [folderAgain]) = r' ∧
          e = .binding ⟨.registeredTwice, some "Folder", none⟩) ∧
        ∃ e r', (Registry.ofCalls calls).register label = (.error e, r') ∧
          r' = .ofCalls calls ∧ Registry.ofCalls (calls ++ [label]) = r' ∧
            e = .name (.invalid "1st") := by
  have hall := (Registry.register_all_or_nothing calls).1
  refine ⟨?_, ?_, ?_⟩
  · obtain ⟨r', hr'⟩ := (hall mark).1.2 (by decide +kernel)
    exact ⟨r', hr', (hall mark).2.1 r' hr'⟩
  · have hrefused : (Registry.ofCalls calls).register folderAgain =
        (.error (.binding ⟨.registeredTwice, some "Folder", none⟩), .ofCalls calls) := by
      decide +kernel
    obtain ⟨hsame, hcalls, _⟩ := (hall folderAgain).2.2 _ _ hrefused
    exact ⟨_, _, hrefused, hsame, hcalls, rfl⟩
  · have hrefused : (Registry.ofCalls calls).register label =
        (.error (.name (.invalid "1st")), .ofCalls calls) := by
      decide +kernel
    obtain ⟨hsame, hcalls, _⟩ := (hall label).2.2 _ _ hrefused
    exact ⟨_, _, hrefused, hsame, hcalls, rfl⟩

end Folders

end TagGrammar
