import TagGrammar.Collection.TagTable
import TagGrammar.Descriptor
import TagGrammar.Json.Printer

/-!
# Hint documents

The grammar of the documents with a certain root: the tags that may stand at the top, and a
descriptor for every tag. As JSON it is one object, with the top tags and the global attributes
under two reserved keys, which are no XML Names.
-/

namespace TagGrammar

/-- A grammar of documents. -/
structure HintDocument where
  /-- The tags that may stand at the top. -/
  topElements : List String
  /-- Attributes that every tag has. -/
  globalAttributes : OrderedMap String (Option ValueSet)
  /-- The descriptor of every tag. -/
  registry : TagTable Descriptor
  deriving DecidableEq

def valuesJson : Option ValueSet → Json
  | none => .null
  | some values => .array (values.members.map .string)

def attributesJson (attributes : OrderedMap String (Option ValueSet)) : Json :=
  .object (attributes.entries.map fun e => (e.1, valuesJson e.2))

/-- The JSON value of a descriptor: what may stand within a tag, but not what may stand for it. -/
def Descriptor.toJson (d : Descriptor) : Json :=
  .object
    [("attrs", attributesJson d.attributes), ("children", .array (d.children.tags.map .string))]

namespace HintDocument

def topKey : String := "!top"

def globalAttributesKey : String := "!attrs"

/-- The grammar with one tag at the top and no global attributes. -/
def ofRoot (root : String) (registry : TagTable Descriptor) : HintDocument :=
  ⟨[root], .empty, registry⟩

def get? (h : HintDocument) (tag : String) : Option Descriptor := h.registry.get? tag

def toJson (h : HintDocument) : Json :=
  .object ((topKey, .array (h.topElements.map .string))
    :: (globalAttributesKey, attributesJson h.globalAttributes)
    :: h.registry.entries.map fun e => (e.1, e.2.toJson))

end HintDocument

end TagGrammar
