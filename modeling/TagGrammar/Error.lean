import TagGrammar.Json.Fault

/-!
# Errors

Hints are computed without errors. Errors arise before and after: where bindings are declared, where
a schema or a value table is read, and where a script is written. Each error names its cause, and
`Error.message` is its text.
-/

namespace TagGrammar

/-- What is wrong with a declaration. -/
inductive BindingFault where
  | registeredTwice
  | unknownType (name : String)
  | unknownEnumeration (name : String)
  | namedReference
  /-- A fault in the caller's words. -/
  | described (text : String)
  deriving DecidableEq, Repr

def BindingFault.message : BindingFault → String
  | .registeredTwice => "type registered twice"
  | .unknownType name => "reference to unknown type '" ++ name ++ "'"
  | .unknownEnumeration name => "unknown enumeration '" ++ name ++ "'"
  | .namedReference => "reference children take their tag from the referenced type"
  | .described text => text

/-- A declaration that cannot be used, and where it is. -/
structure BindingError where
  fault : BindingFault
  /-- The type whose declaration it is. -/
  owner : Option String
  accessor : Option String
  deriving DecidableEq, Repr

/-- The text of a binding error. An accessor is shown along with its type only. -/
def BindingError.message (e : BindingError) : String :=
  match e.owner, e.accessor with
  | none, _ => e.fault.message
  | some owner, none => e.fault.message ++ " (type '" ++ owner ++ "')"
  | some owner, some accessor =>
    e.fault.message ++ " (type '" ++ owner ++ "', accessor '" ++ accessor ++ "')"

/-- What is wrong with a name. -/
inductive NameFault where
  | invalid (name : String)
  | described (text : String)
  deriving DecidableEq, Repr

def NameFault.message : NameFault → String
  | .invalid name => "Invalid XML Name: '" ++ name ++ "'"
  | .described text => text

/-- Why a file cannot be used. -/
inductive FileFault where
  | missing
  | directory
  | notDirectory
  | denied
  | notUtf8
  /-- Another cause, in the words of the system. -/
  | described (text : String)
  deriving DecidableEq, Repr

def FileFault.message : FileFault → String
  | .missing => "No such file or directory (os error 2)"
  | .directory => "Is a directory (os error 21)"
  | .notDirectory => "Not a directory (os error 20)"
  | .denied => "Permission denied (os error 13)"
  | .notUtf8 => "stream did not contain valid UTF-8"
  | .described text => text

/-- What is wrong with a resource. -/
inductive ResourceFault where
  | unreadable (path : String) (cause : FileFault)
  | described (text : String)
  deriving DecidableEq, Repr

def ResourceFault.message : ResourceFault → String
  | .unreadable path cause => "Failed to read file '" ++ path ++ "': " ++ cause.message
  | .described text => text

/-- What is wrong with JSON. -/
inductive JsonFault where
  | text (fault : Json.TextFault)
  | content (mismatch : Json.Mismatch)
  | writing
  deriving DecidableEq, Repr

def JsonFault.message : JsonFault → String
  | .text .ended => "unexpected end of text"
  | .text .malformed => "malformed text"
  | .content mismatch => mismatch.message
  | .writing => "text cannot be written"

/-- An error. -/
inductive Error where
  | binding (error : BindingError)
  | name (fault : NameFault)
  | resource (fault : ResourceFault)
  | json (fault : JsonFault)
  /-- A writer takes no more; the text says why. -/
  | io (text : String)
  | other (text : String)
  deriving DecidableEq, Repr

def Error.message : Error → String
  | .binding error => "binding error: " ++ error.message
  | .name fault => "name error: " ++ fault.message
  | .resource fault => "resource error: " ++ fault.message
  | .json fault => "JSON error: " ++ fault.message
  | .io text => "I/O error: " ++ text
  | .other text => text

end TagGrammar
