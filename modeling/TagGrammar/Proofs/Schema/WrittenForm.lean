import TagGrammar.Proofs.Json.Records
import TagGrammar.Schema

/-!
# The written form of schemas

A schema and each of its declarations is written as a JSON object whose members have the names of
the fields for keys and stand in any order. What need not be declared may be left out, and a
supertype, a root, a name or an item that is not declared may be null, too. `Writes` says so for
every kind of declaration, without a decoder.
-/

namespace TagGrammar

open Json Json.Decoder

/-! ## Types -/

/-- The type is written as an object that says of which kind it is, and has the field of this kind
behind or before it. -/
inductive DeclaredType.Writes : DeclaredType → Json → Prop where
  | boolean : Writes .boolean (.object [("kind", .string "boolean")])
  | enumeration {name : String} {members : List (String × Json)}
      (h : members.Perm [("kind", .string "enum"), ("name", .string name)]) :
      Writes (.enumeration name) (.object members)
  | scalar {name : String} {members : List (String × Json)}
      (h : members.Perm [("kind", .string "scalar"), ("name", .string name)]) :
      Writes (.scalar name) (.object members)
  | element {name : String} {members : List (String × Json)}
      (h : members.Perm [("kind", .string "element"), ("type", .string name)]) :
      Writes (.element name) (.object members)
  | list {item : DeclaredType} {j : Json} {members : List (String × Json)} (hitem : Writes item j)
      (h : members.Perm [("kind", .string "list"), ("item", j)]) :
      Writes (.list item) (.object members)
  /-- A list without an item. -/
  | bareList : Writes .erasedList (.object [("kind", .string "list")])
  | nullList {members : List (String × Json)}
      (h : members.Perm [("kind", .string "list"), ("item", .null)]) :
      Writes .erasedList (.object members)

/-! ## Declarations -/

/-- The word for the kind of a child. -/
def DeclaredKind.word : DeclaredKind → String
  | .reference => "reference"
  | .named => "named"

inductive RootElement.Writes (root : RootElement) : Json → Prop where
  | object {members : List (String × Json)}
      (hname : OptionalField "name" WritesText root.name members) : Writes root (.object members)

inductive AttributeDeclaration.Writes (a : AttributeDeclaration) : Json → Prop where
  | object {j : Json} {names members : List (String × Json)}
      (hname : OptionalField "name" WritesText a.name names) (htype : a.type.Writes j)
      (h : members.Perm (("accessor", .string a.accessor) :: (names ++ [("type", j)]))) :
      Writes a (.object members)

inductive ChildDeclaration.Writes (c : ChildDeclaration) : Json → Prop where
  | object {j : Json} {names members : List (String × Json)}
      (hname : OptionalField "name" WritesText c.name names) (htype : c.type.Writes j)
      (h : members.Perm (("accessor", .string c.accessor) :: ("kind", .string c.kind.word) ::
        (names ++ [("type", j)]))) :
      Writes c (.object members)

inductive TypeDeclaration.Writes (t : TypeDeclaration) : Json → Prop where
  | object {supertypes roots attributes children members : List (String × Json)}
      (hsupertype : OptionalField "extends" WritesText t.supertype supertypes)
      (hroot : OptionalField "root" RootElement.Writes t.root roots)
      (hattributes : ListField "attributes" AttributeDeclaration.Writes t.attributes attributes)
      (hchildren : ListField "children" ChildDeclaration.Writes t.children children)
      (h : members.Perm (("name", .string t.name) ::
        (supertypes ++ (roots ++ (attributes ++ children))))) :
      Writes t (.object members)

/-! ## Schemas -/

/-- An enumeration is written as its members behind its name. -/
def writtenEnums (entries : List (String × List String)) : Json :=
  .object (entries.map fun e => (e.1, .array (e.2.map .string)))

/-- The members that write the enumerations, which may come in any order. If there are none, the
field may be left out. -/
inductive Enums.WrittenField (enums : Enums) : List (String × Json) → Prop where
  | leftOut (h : enums = .empty) : WrittenField enums []
  | given {entries : List (String × List String)} (h : entries.Perm enums.entries) :
      WrittenField enums [("enums", writtenEnums entries)]

inductive Schema.Writes (s : Schema) : Json → Prop where
  | object {enums types members : List (String × Json)} (henums : Enums.WrittenField s.enums enums)
      (htypes : ListField "types" TypeDeclaration.Writes s.types types)
      (h : members.Perm (enums ++ types)) : Writes s (.object members)

/-- The same types, and the same enumerations, which may come in another order. -/
structure Schema.SameContent (s s' : Schema) : Prop where
  enums : s'.enums.entries.Perm s.enums.entries
  types : s'.types = s.types

end TagGrammar
