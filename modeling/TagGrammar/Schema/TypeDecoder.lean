import TagGrammar.Json.Decoder
import TagGrammar.Schema

/-!
# Decoding declared types

A declared type is an object whose `kind` says which other fields it has, or an array of the kind
and the one field. The outermost type is read to its end before any part but its kind is looked at,
so a fault of the text comes before all other faults within it; the types of items, which then are
known to be free of such faults, are decoded last.
-/

namespace TagGrammar.DeclaredType

open Json

/-- The kinds of declared types that have no declared type within them. -/
inductive PlainKind where
  | boolean
  | enumeration
  | scalar
  | element
  deriving DecidableEq, Repr

/-- The kinds of declared types. -/
inductive Kind where
  | plain (kind : PlainKind)
  | list
  deriving DecidableEq, Repr

namespace Kind

/-- The word for each kind, in order. -/
def words : List (String × Kind) :=
  [("boolean", .plain .boolean), ("enum", .plain .enumeration), ("scalar", .plain .scalar),
    ("element", .plain .element), ("list", .list)]

/-- What messages expect where a kind should stand. -/
def expected : String := "variant identifier"

def ofWord (word : String) : Except JsonFault Kind :=
  match words.lookup word with
  | some kind => .ok kind
  | none => reject (.unknownVariant word (words.map Prod.fst))

def ofDraft : Decoder Kind
  | .string word => ofWord word
  | d => expect expected d

/-- The kind in a value; there, its number in the list of kinds will do, too. -/
def ofValue : Json → Except JsonFault Kind
  | .string word => ofWord word
  | .number (.integer i) =>
    if i < 0 then expectValue expected (.number (.integer i))
    else
      match words[i.toNat]? with
      | some (_, kind) => .ok kind
      | none => reject (.wrongValue (.number (.integer i)) "variant index 0 <= i < 5")
  | j => expectValue expected j

end Kind

def kindKey : String := "kind"

/-- What messages call a declared type. -/
def title : String := "internally tagged enum ValueDecl"

/-- What messages expect of an array in which the field of a kind does not come. -/
def shortText : PlainKind → String
  | .scalar => "struct variant ValueDecl::Scalar with 1 element"
  | .element => "struct variant ValueDecl::Element with 1 element"
  | _ => "struct variant ValueDecl::Enum with 1 element"

/-- The kind among the members of an object, and the other members. The kind is decoded as soon as
it comes, and may come once. -/
def splitKind {α : Type} (kindOf : α → Except JsonFault Kind) (whole : α → Except JsonFault Json) :
    Option Kind → List (String × α) → Except JsonFault (Option Kind × List (String × Json))
  | kind, [] => .ok (kind, [])
  | kind, (key, value) :: members =>
    if key = kindKey then
      if kind.isSome then reject (.duplicateField key)
      else do
        let found ← kindOf value
        splitKind kindOf whole (some found) members
    else do
      let value ← whole value
      let (kind, others) ← splitKind kindOf whole kind members
      return (kind, (key, value) :: others)

def textOf : Json → Except JsonFault String
  | .string s => .ok s
  | j => expectValue "a string" j

/-- Check that nothing comes behind the one field. -/
def nothingAfter (field : String) : List (String × Json) → Except JsonFault Unit
  | [] => .ok ()
  | (key, _) :: members =>
    if key = kindKey then nothingAfter field members
    else if key = field then reject (.duplicateField key)
    else reject (.unknownField key [field])

/-- The text of the one field, which must come. -/
def textField (field : String) : List (String × Json) → Except JsonFault String
  | [] => reject (.missingField field)
  | (key, value) :: members =>
    if key = kindKey then textField field members
    else if key = field then do
      let s ← textOf value
      nothingAfter field members
      return s
    else reject (.unknownField key [field])

/-- Check the length of an array behind its kind: one item was taken. -/
def noMoreItems (items : List Json) : Except JsonFault Unit :=
  if items.isEmpty then .ok ()
  else reject (.wrongLength (items.length + 1) "1 element in sequence")

/-- The text of the one item, which must come. -/
def textItem (kind : PlainKind) : List Json → Except JsonFault String
  | [] => reject (.wrongLength 0 (shortText kind))
  | item :: items => do
    let s ← textOf item
    noMoreItems items
    return s

/-- The declared type of a plain kind whose fields are the members. -/
def plainOfMembers (kind : PlainKind) (members : List (String × Json)) :
    Except JsonFault DeclaredType :=
  match kind with
  | .boolean => .ok .boolean
  | .enumeration => do return .enumeration (← textField "name" members)
  | .scalar => do return .scalar (← textField "name" members)
  | .element => do return .element (← textField "type" members)

/-- The declared type of a plain kind whose field is the one item. -/
def plainOfItems (kind : PlainKind) (items : List Json) : Except JsonFault DeclaredType :=
  match kind with
  | .boolean =>
    if items.isEmpty then .ok .boolean
    else reject (.wrongLength items.length "0 elements in sequence")
  | .enumeration => do return .enumeration (← textItem kind items)
  | .scalar => do return .scalar (← textItem kind items)
  | .element => do return .element (← textItem kind items)

mutual

def ofValue : Json → Except JsonFault DeclaredType
  | .object members => do
    let (kind, _) ← splitKind Kind.ofValue .ok none members
    match kind with
    | none => reject (.missingField kindKey)
    | some (.plain kind) => plainOfMembers kind members
    | some .list => listOfMembers members
  | .array [] => reject (.missingField kindKey)
  | .array (item :: items) => do
    let kind ← Kind.ofValue item
    match kind with
    | .plain kind => plainOfItems kind items
    | .list => listOfItems items
  | j => expectValue title j

/-- The list type whose item type is the one field, which need not come and may be null. -/
def listOfMembers : List (String × Json) → Except JsonFault DeclaredType
  | [] => .ok .erasedList
  | (key, value) :: members =>
    if key = kindKey then listOfMembers members
    else if key = "item" then do
      let type ← if value.isNull then .ok .erasedList else (ofValue value).map .list
      nothingAfter "item" members
      return type
    else reject (.unknownField key ["item"])

/-- The list type whose item type is the one item, which need not come and may be null. -/
def listOfItems : List Json → Except JsonFault DeclaredType
  | [] => .ok .erasedList
  | item :: items => do
    let type ← if item.isNull then .ok .erasedList else (ofValue item).map .list
    noMoreItems items
    return type

end

def decoder : Decoder DeclaredType
  | .object members ending => do
    let (kind, others) ← splitKind Kind.ofDraft (inText ·.whole) none members
    inText ending.check
    match kind with
    | none => reject (.missingField kindKey)
    | some (.plain kind) => plainOfMembers kind others
    | some .list => listOfMembers others
  | .array [] ending => do
    inText ending.check
    reject (.missingField kindKey)
  | .array (item :: items) ending => do
    let kind ← Kind.ofDraft item
    let items ← inText (Draft.wholeItems items)
    inText ending.check
    match kind with
    | .plain kind => plainOfItems kind items
    | .list => listOfItems items
  | .tooDeep _ => malformed
  | d => expect title d

end TagGrammar.DeclaredType
