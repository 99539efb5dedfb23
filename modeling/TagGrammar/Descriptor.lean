import TagGrammar.Collection.OrderedMap
import TagGrammar.Collection.OrderedSet
import TagGrammar.Collection.TagSet

/-!
# Descriptors of tags

What may stand in an element: its attributes with their values, the tags of its children, and the
tags that may stand in its own place. Children and overrides are sets, attributes keep the order in
which they were found.
-/

namespace TagGrammar

/-- The grammar of one tag. -/
structure Descriptor where
  /-- The tag; a type that cannot be an element by itself has none. -/
  tag : Option String
  /-- The attributes and their values, where `none` stands for any value. -/
  attributes : OrderedMap String (Option ValueSet)
  /-- The tags that may stand directly within this one. -/
  children : TagSet
  /-- The tags of subtypes, which may stand wherever this one may. -/
  overrides : TagSet
  deriving DecidableEq

attribute [ext] Descriptor

namespace Descriptor

def blank (tag : Option String) : Descriptor := ⟨tag, .empty, .empty, .empty⟩

instance : Inhabited Descriptor := ⟨blank none⟩

def setAttribute (d : Descriptor) (name : String) (values : Option ValueSet) : Descriptor :=
  { d with attributes := d.attributes.insert name values }

def addOverride (d : Descriptor) (tag : String) : Descriptor :=
  { d with overrides := d.overrides.insert tag }

def addChildTag (d : Descriptor) (tag : String) : Descriptor :=
  { d with children := d.children.insert tag }

/-- The tags that may stand where this descriptor's type is expected: its own and all overrides. -/
def substitutes (d : Descriptor) : List String := d.tag.toList ++ d.overrides.tags

/-- Add all tags that may stand where `child` is expected. -/
def addChild (d child : Descriptor) : Descriptor :=
  { d with children := d.children.insertAll child.substitutes }

/-- The same grammar under another tag. -/
def cloneAs (d : Descriptor) (tag : String) : Descriptor := { d with tag := some tag }

/-- The values of an attribute; the outer `none` is an attribute that is not there. -/
def attribute? (d : Descriptor) (name : String) : Option (Option ValueSet) :=
  d.attributes.get? name

/-- Whether two suggestions are the same set of values. -/
def sameValues : Option ValueSet → Option ValueSet → Bool
  | none, none => true
  | some s, some t => s.sameMembers t
  | _, _ => false

/-- Whether each attribute of `m` has the same values in `n`. -/
def attributesWithin (m n : OrderedMap String (Option ValueSet)) : Bool :=
  m.entries.all fun e =>
    match n.get? e.1 with
    | some values => sameValues e.2 values
    | none => false

/-- Whether two descriptors say the same, whatever the order of attributes and values. -/
def equivalent (d e : Descriptor) : Bool :=
  d.tag == e.tag && d.children == e.children && d.overrides == e.overrides
    && attributesWithin d.attributes e.attributes && attributesWithin e.attributes d.attributes

end Descriptor

end TagGrammar
