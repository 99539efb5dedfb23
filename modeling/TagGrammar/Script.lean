import TagGrammar.Error
import TagGrammar.HintDocument

/-!
# Scripts

A grammar is published as a script that assigns its JSON value to a variable. The script can also be
written piece by piece to a sink that takes a limited number of bytes; how a failure is reported
depends on the piece in which the sink closes.
-/

namespace TagGrammar

/-- The choices for a script. -/
structure ScriptOptions where
  /-- The variable, whose name is not checked. -/
  variableName : String := "tags"
  /-- Whether the JSON value is indented. -/
  pretty : Bool := false
  deriving DecidableEq, Repr

def ScriptOptions.layout (o : ScriptOptions) : Json.Layout :=
  if o.pretty then .indented else .compact

/-- What comes before the JSON value. -/
def ScriptOptions.head (o : ScriptOptions) : String := "var " ++ o.variableName ++ " = "

/-- What comes behind the JSON value. -/
def scriptEnd : String := ";"

namespace HintDocument

def jsonText (h : HintDocument) (o : ScriptOptions) : String := h.toJson.text o.layout

def script (h : HintDocument) (o : ScriptOptions) : String := o.head ++ h.jsonText o ++ scriptEnd

end HintDocument

/-! ### Writing to a sink -/

def utf8Bytes (s : String) : List UInt8 := s.toUTF8.data.toList

/-- A sink for bytes. It may be limited, and then it closes when it is full. -/
structure Sink where
  /-- How many bytes it takes in all, if there is a limit. -/
  capacity : Option Nat
  /-- What it says when it has closed. -/
  reason : String
  accepted : List UInt8
  deriving DecidableEq

namespace Sink

def ofCapacity (capacity : Nat) (reason : String) : Sink := ⟨some capacity, reason, []⟩

/-- A sink that never closes. -/
def unlimited : Sink := ⟨none, "", []⟩

/-- As many of the bytes as the sink still takes. -/
def share (s : Sink) (bytes : List UInt8) : List UInt8 :=
  match s.capacity with
  | none => bytes
  | some capacity => bytes.take (capacity - s.accepted.length)

/-- The sink after it has taken as many of the bytes as it can. -/
def accept (s : Sink) (bytes : List UInt8) : Sink :=
  { s with accepted := s.accepted ++ s.share bytes }

/-- Write a text; if not all of it is taken, the error is the one given. -/
def write (s : Sink) (text : String) (failure : Error) : Sink × Except Error Unit :=
  let bytes := utf8Bytes text
  (s.accept bytes, if bytes.length ≤ (s.share bytes).length then .ok () else .error failure)

/-- Go on after a piece, unless it failed. -/
def andThen (result : Sink × Except Error Unit) (next : Sink → Sink × Except Error Unit) :
    Sink × Except Error Unit :=
  match result with
  | (s, .ok ()) => next s
  | (s, .error e) => (s, .error e)

/-- The text that a sink has taken. -/
def text (s : Sink) : Except Error String :=
  match String.fromUTF8? ⟨s.accepted.toArray⟩ with
  | some text => .ok text
  | none => .error (.other "non UTF-8 script")

/-- The text that comes of writing to a sink which never closes. -/
def textOf (write : Sink → Sink × Except Error Unit) : Except Error String := do
  let (sink, outcome) := write .unlimited
  outcome
  sink.text

end Sink

namespace HintDocument

/-- Write the script of a grammar to a sink. A failure within the JSON value is one of writing JSON,
any other is the sink's own. -/
def writeScript (h : HintDocument) (o : ScriptOptions) (sink : Sink) : Sink × Except Error Unit :=
  Sink.andThen (sink.write o.head (.io sink.reason)) fun s =>
    Sink.andThen (s.write (h.jsonText o) (.json .writing)) fun s =>
      s.write scriptEnd (.io sink.reason)

/-- Write the script of a grammar to a sink, with a line break behind it. -/
def writeLine (h : HintDocument) (o : ScriptOptions) (sink : Sink) : Sink × Except Error Unit :=
  Sink.andThen (h.writeScript o sink) fun s => s.write "\n" (.io sink.reason)

/-- The script of a grammar as it is written, unless that fails. -/
def encode (h : HintDocument) (o : ScriptOptions) : Except Error String :=
  Sink.textOf (h.writeScript o)

end HintDocument

end TagGrammar
