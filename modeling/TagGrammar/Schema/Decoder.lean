import TagGrammar.Collection.OrderedSet
import TagGrammar.Schema.TypeDecoder
import TagGrammar.Values

/-!
# Decoding schemas and value tables

Each declaration is a record, and its form lists the fields in order. All that is not required may
be left out; a supertype, a root and an optional name may be null, too.

`Schema.parse` reads a schema, `parseBindings` the registry that it describes, and `parseValueTable`
a table of values.
-/

namespace TagGrammar

open Json

/-! ### The kind of a child -/

namespace DeclaredKind

/-- The word for each kind, in order. -/
def words : List (String × DeclaredKind) := [("reference", .reference), ("named", .named)]

def ofWord (word : String) : Except JsonFault DeclaredKind :=
  match words.lookup word with
  | some kind => .ok kind
  | none => reject (.unknownVariant word (words.map Prod.fst))

/-- The kind is a word, or an object with the word as its only key and null behind it. -/
def decoder : Decoder DeclaredKind
  | .string word => ofWord word
  | .badString fault => .error (.text fault)
  | .missing => .error (.text .ended)
  | .object [] ending => do
    inText ending.check
    malformed
  | .object ((key, value) :: members) ending => do
    let kind ← ofWord key
    match value with
    | .null =>
      if members.isEmpty then
        inText ending.checkLast
        return kind
      else malformed
    | d => expect "unit" d
  | _ => malformed

end DeclaredKind

/-! ### The forms of the declarations -/

def RootElement.form : RecordForm (Option String) RootElement where
  title := "struct RootDecl"
  fields := ["name"]
  required := []
  start := none
  set := fun _ value _ => Decoder.optional Decoder.text value
  finish := fun name => .ok ⟨name⟩

/-- The parts of the declaration of an attribute. -/
structure AttributeDeclaration.Parts where
  accessor : Option String := none
  name : Option String := none
  type : Option DeclaredType := none

def AttributeDeclaration.form : RecordForm AttributeDeclaration.Parts AttributeDeclaration where
  title := "struct AttributeDecl"
  fields := ["accessor", "name", "type"]
  required := ["accessor", "type"]
  start := {}
  set := fun field value parts =>
    match field with
    | "accessor" => do return { parts with accessor := some (← Decoder.text value) }
    | "name" => do return { parts with name := ← Decoder.optional Decoder.text value }
    | _ => do return { parts with type := some (← DeclaredType.decoder value) }
  finish := fun parts => do
    let accessor ← require "accessor" parts.accessor
    let type ← require "type" parts.type
    return ⟨accessor, parts.name, type⟩

structure ChildDeclaration.Parts where
  accessor : Option String := none
  kind : Option DeclaredKind := none
  name : Option String := none
  type : Option DeclaredType := none

def ChildDeclaration.form : RecordForm ChildDeclaration.Parts ChildDeclaration where
  title := "struct ChildDecl"
  fields := ["accessor", "kind", "name", "type"]
  required := ["accessor", "kind", "type"]
  start := {}
  set := fun field value parts =>
    match field with
    | "accessor" => do return { parts with accessor := some (← Decoder.text value) }
    | "kind" => do return { parts with kind := some (← DeclaredKind.decoder value) }
    | "name" => do return { parts with name := ← Decoder.optional Decoder.text value }
    | _ => do return { parts with type := some (← DeclaredType.decoder value) }
  finish := fun parts => do
    let accessor ← require "accessor" parts.accessor
    let kind ← require "kind" parts.kind
    let type ← require "type" parts.type
    return ⟨accessor, kind, parts.name, type⟩

structure TypeDeclaration.Parts where
  name : Option String := none
  supertype : Option String := none
  root : Option RootElement := none
  attributes : List AttributeDeclaration := []
  children : List ChildDeclaration := []

def TypeDeclaration.form : RecordForm TypeDeclaration.Parts TypeDeclaration where
  title := "struct TypeDecl"
  fields := ["name", "extends", "root", "attributes", "children"]
  required := ["name"]
  start := {}
  set := fun field value parts =>
    match field with
    | "name" => do return { parts with name := some (← Decoder.text value) }
    | "extends" => do return { parts with supertype := ← Decoder.optional Decoder.text value }
    | "root" => do return { parts with root := ← Decoder.optional RootElement.form.decoder value }
    | "attributes" => do
      return { parts with attributes := ← Decoder.listOf AttributeDeclaration.form.decoder value }
    | _ => do return { parts with children := ← Decoder.listOf ChildDeclaration.form.decoder value }
  finish := fun parts => do
    let name ← require "name" parts.name
    return ⟨name, parts.supertype, parts.root, parts.attributes, parts.children⟩

/-- An object of lists of words. A key that comes again replaces what was behind it. -/
def wordLists : Decoder (OrderedMap String (List String)) := fun d => do
  return .ofList (← Decoder.entriesOf (Decoder.listOf Decoder.text) d)

def Schema.form : RecordForm Schema Schema where
  title := "struct SchemaDocument"
  fields := ["enums", "types"]
  required := []
  start := ⟨.empty, []⟩
  set := fun field value parts =>
    match field with
    | "enums" => do return { parts with enums := ← wordLists value }
    | _ => do return { parts with types := ← Decoder.listOf TypeDeclaration.form.decoder value }
  finish := .ok

/-! ### Texts -/

/-- A fault of JSON among the errors. -/
def inJson {α : Type} : Except JsonFault α → Except Error α
  | .ok a => .ok a
  | .error fault => .error (.json fault)

def Schema.parse (text : String) : Except Error Schema :=
  inJson ((Json.read text).decode Schema.form.decoder)

/-- The registry that the schema in a text describes, and the events of loading it. -/
def loadBindings (text : String) : Except Error (Registry × List Event) := do
  let schema ← Schema.parse text
  let registry ← schema.toRegistry
  return (registry, [schema.loadedEvent])

/-- The registry that the schema in a text describes. -/
def parseBindings (text : String) : Except Error Registry := do
  let schema ← Schema.parse text
  schema.toRegistry

/-- The table of values in a text. -/
def parseValueTable (text : String) : Except Error ValueTable := do
  let lists ← inJson ((Json.read text).decode wordLists)
  return ValueTable.ofList lists.entries

end TagGrammar
