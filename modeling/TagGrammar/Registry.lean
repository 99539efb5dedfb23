import TagGrammar.Binding
import TagGrammar.Error

/-!
# The registry of bindings

Bindings in the order in which they were registered, at most one for a type. Registering checks the
names that a binding publishes; whether the types it refers to are registered is a question for the
whole registry, which `validate` answers.

A registry is changed step by step, and a change may be refused on the way (`Change`). `register`
gives the answer and the registry that is there afterwards, whatever the answer is:

    register_eq_ok_iff : r.register b = (.ok (), r') ↔ b.name ∉ r.knownTypes ∧
      (∀ n ∈ b.publishedNames, Name.isValid n) ∧ r'.bindings = r.bindings ++ [b]
    eq_of_register_eq_error : r.register b = (.error e, r') → r' = r
-/

namespace TagGrammar

/-- Bindings, at most one for a type. -/
structure Registry where
  bindings : List TypeBinding
  /-- No type has two bindings. -/
  nodup_names : (bindings.map (·.name)).Nodup
  deriving DecidableEq

namespace Registry

def empty : Registry := ⟨[], List.nodup_nil⟩

instance : Inhabited Registry := ⟨empty⟩

/-- The registered types, in order. -/
def knownTypes (r : Registry) : List TypeName := r.bindings.map (·.name)

def size (r : Registry) : Nat := r.bindings.length

def get? (r : Registry) (type : TypeName) : Option TypeBinding :=
  r.bindings.find? fun b => decide (b.name = type)

def contains (r : Registry) (type : TypeName) : Bool := decide (type ∈ r.knownTypes)

/-- The tag of a type, if it has a binding with a root element. -/
def tag? (r : Registry) (type : TypeName) : Option String := (r.get? type).bind (·.tag?)

def supertype? (r : Registry) (type : TypeName) : Option TypeName :=
  (r.get? type).bind (·.supertype)

/-! ### Registering -/

theorem nodup_names_append {bs : List TypeBinding} {b : TypeBinding}
    (h : (bs.map (·.name)).Nodup) (hb : b.name ∉ bs.map (·.name)) :
    ((bs ++ [b]).map (·.name)).Nodup := by
  rw [List.map_append]
  refine List.nodup_append.2 ⟨h, by simp, ?_⟩
  rintro x hx y hy rfl
  have : x = b.name := List.mem_singleton.1 hy
  exact hb (this ▸ hx)

theorem map_name_replace (b : TypeBinding) (bs : List TypeBinding) :
    (bs.map fun c => if c.name = b.name then b else c).map (·.name) = bs.map (·.name) := by
  rw [List.map_map]
  apply List.map_congr_left
  intro c _
  by_cases h : c.name = b.name <;> simp [h]

/-- Put a binding in the place of the one that its type has, or else behind all others. -/
def insert (r : Registry) (b : TypeBinding) : Registry :=
  if h : b.name ∈ r.knownTypes then
    ⟨r.bindings.map fun c => if c.name = b.name then b else c,
      (map_name_replace b r.bindings).symm ▸ r.nodup_names⟩
  else ⟨r.bindings ++ [b], nodup_names_append r.nodup_names h⟩

theorem bindings_insert_of_new {r : Registry} {b : TypeBinding} (new : b.name ∉ r.knownTypes) :
    (r.insert b).bindings = r.bindings ++ [b] := by
  unfold insert
  rw [dif_neg new]

/-- The first name that the binding publishes without being an XML Name is an error. -/
def checkNames (b : TypeBinding) : Except Error Unit :=
  match b.publishedNames.find? (!Name.isValid ·) with
  | some name => .error (.name (.invalid name))
  | none => .ok ()

theorem checkNames_eq_ok_iff {b : TypeBinding} :
    checkNames b = .ok () ↔ ∀ n ∈ b.publishedNames, Name.isValid n := by
  unfold checkNames
  split
  · next name hname =>
    have hmem := List.mem_of_find?_eq_some hname
    have hbad := List.find?_some hname
    simp only [reduceCtorEq, false_iff]
    intro hall
    simp [hall name hmem] at hbad
  · next hnone => simpa using hnone

/-- A change of the registry, which may be refused on the way. -/
abbrev Change := ExceptT Error (StateM Registry)

/-- Register a binding behind all others. A type may be registered once only, and every name that
the binding publishes must be valid. -/
def registering (b : TypeBinding) : Change Unit := do
  if (← get).contains b.name then
    throw (.binding ⟨.registeredTwice, some b.name.name, none⟩)
  checkNames b
  modify (·.insert b)

/-- The answer to registering a binding, and the registry afterwards. -/
def register (r : Registry) (b : TypeBinding) : Except Error Unit × Registry :=
  (registering b).run r

/-- The registry after a call of `register`, whatever the answer is. -/
def attempt (r : Registry) (b : TypeBinding) : Registry := (r.register b).2

/-- The registry after calls of `register`, from the empty one on. -/
def ofCalls (calls : List TypeBinding) : Registry := calls.foldl attempt empty

/-- The registry with one more binding, where nobody asks for it after a refusal. -/
def registered (r : Registry) (b : TypeBinding) : Except Error Registry :=
  match r.register b with
  | (.ok (), r') => .ok r'
  | (.error e, _) => .error e

/-- Register bindings one after another, up to the first that is refused. -/
def registerAll (r : Registry) : List TypeBinding → Except Error Registry
  | [] => .ok r
  | b :: bs => do registerAll (← r.registered b) bs

theorem register_eq (r : Registry) (b : TypeBinding) : r.register b =
    if b.name ∈ r.knownTypes then
      (.error (.binding ⟨.registeredTwice, some b.name.name, none⟩), r)
    else
      match checkNames b with
      | .ok () => (.ok (), r.insert b)
      | .error e => (.error e, r) := by
  show (if r.contains b.name = true then
      throw (.binding ⟨.registeredTwice, some b.name.name, none⟩)
    else do
      checkNames b
      modify (·.insert b) : Change Unit).run r = _
  have hcontains : r.contains b.name = true ↔ b.name ∈ r.knownTypes := decide_eq_true_iff
  by_cases h : b.name ∈ r.knownTypes
  · rw [if_pos (hcontains.2 h), if_pos h]
    rfl
  · rw [if_neg (mt hcontains.1 h), if_neg h]
    cases checkNames b <;> rfl

theorem register_eq_ok_iff {r r' : Registry} {b : TypeBinding} :
    r.register b = (.ok (), r') ↔ b.name ∉ r.knownTypes ∧
      (∀ n ∈ b.publishedNames, Name.isValid n) ∧ r'.bindings = r.bindings ++ [b] := by
  rw [register_eq, ← checkNames_eq_ok_iff]
  split
  · next h => simp [h]
  · next h =>
    cases hnames : checkNames b with
    | error e => simp
    | ok u =>
      rw [← bindings_insert_of_new h]
      constructor
      · intro heq
        cases heq
        exact ⟨h, rfl, rfl⟩
      · rintro ⟨_, _, heq⟩
        cases r'
        simp_all

/-- A refusal leaves the registry as it was. -/
theorem eq_of_register_eq_error {r r' : Registry} {b : TypeBinding} {e : Error}
    (h : r.register b = (.error e, r')) : r' = r := by
  rw [register_eq] at h
  split at h
  · cases h
    rfl
  · split at h
    · cases h
    · cases h
      rfl

theorem registered_eq_ok_iff {r r' : Registry} {b : TypeBinding} :
    r.registered b = .ok r' ↔ r.register b = (.ok (), r') := by
  unfold registered
  split
  · next h => simp [h]
  · next h => simp [h]

/-! ### Validation -/

/-- The first reference of a binding to a type that is not registered. -/
def unknownReference? (r : Registry) (b : TypeBinding) : Option (Option String × TypeName) :=
  b.references.find? fun ref => !r.contains ref.2

/-- Check that every supertype is registered, and every element type of an attribute or a child. -/
def validate (r : Registry) : Except Error Unit :=
  match r.bindings.findSome? (fun b => (r.unknownReference? b).map fun ref => (b, ref)) with
  | none => .ok ()
  | some (b, accessor, type) =>
    .error (.binding ⟨.unknownType type.name, some b.name.name, accessor⟩)

end Registry

end TagGrammar
