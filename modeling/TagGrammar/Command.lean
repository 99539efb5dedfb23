import TagGrammar.Generator
import TagGrammar.Invocation
import TagGrammar.Schema.Decoder

/-!
# Commands

What the commands do, as functions of the files they read. `generate` writes a script to the
standard output or into a file, `roots` lists the types that can be the root of a document.

A command takes one step after another (`Effect`): what it has written when it fails stays written.
`Command.run` is the view from outside, where a command that fails shows nothing but its error. The
events on the way are there in either case (`Command.events`).
-/

namespace TagGrammar

/-- The files, as a command sees them. -/
structure Files where
  read : (path : String) → Except FileFault String
  /-- Whether a file can be created. -/
  create : (path : String) → Except FileFault Unit

/-- Why a command fails. -/
inductive Failure where
  | error (e : Error)
  | unknownType (name : String)
  | noRootElement (name : String)
  | notCreated (fault : FileFault)
  deriving DecidableEq, Repr

def Failure.message : Failure → String
  | .error e => e.message
  | .unknownType name => "Unknown type: " ++ name
  | .noRootElement name => "Type '" ++ name ++ "' has no root element, no hints available"
  | .notCreated fault => fault.message

/-- What a command writes. -/
structure Output where
  stdout : String
  stderr : String
  /-- The path and the content of a file. -/
  file : Option (String × String)
  deriving DecidableEq, Repr

/-- What comes of a command line. -/
inductive Outcome where
  /-- The words ask for something else than a command, or for nothing that makes sense. -/
  | halted (halt : Halt)
  | failed (failure : Failure)
  | done (output : Output)
  deriving DecidableEq, Repr

def versionText : String := "xmlhint 0.1.0\n"

/-- The exit code of the program. -/
def Outcome.code : Outcome → Nat
  | .halted (.fault _) => 2
  | .halted .help => 0
  | .halted .version => 0
  | .failed _ => 1
  | .done _ => 0

/-! ### Effects -/

/-- What a command does: it writes as it goes, and it may fail. -/
abbrev Effect := ExceptT Failure (StateM Output)

def Output.nothing : Output := ⟨"", "", none⟩

namespace Effect

def print (text : String) : Effect Unit :=
  modify fun o => { o with stdout := o.stdout ++ text }

def report (text : String) : Effect Unit :=
  modify fun o => { o with stderr := o.stderr ++ text }

/-- Create a file. If there is one, it is empty then. -/
def create (files : Files) (path : String) : Effect Unit :=
  match files.create path with
  | .ok () => modify fun o => { o with file := some (path, "") }
  | .error fault => throw (.notCreated fault)

/-- Write behind all that was written into the file. -/
def append (text : String) : Effect Unit :=
  modify fun o => { o with file := o.file.map fun (path, content) => (path, content ++ text) }

end Effect

/-! ### Reading the inputs -/

/-- An error among the failures. -/
def orFail {α : Type} : Except Error α → Except Failure α
  | .ok a => .ok a
  | .error e => .error (.error e)

/-- The text of a file that must be readable. -/
def Files.text (files : Files) (path : String) : Except Error String :=
  match files.read path with
  | .ok text => .ok text
  | .error fault => .error (.resource (.unreadable path fault))

/-- The registry that the schema in a file describes, and the events of loading it. -/
def Files.loadBindings (files : Files) (path : String) : Except Error (Registry × List Event) := do
  TagGrammar.loadBindings (← files.text path)

/-- The table of values in a file. -/
def Files.loadValueTable (files : Files) (path : String) : Except Error ValueTable := do
  parseValueTable (← files.text path)

/-- The factory of the table in a file, if there is a path. -/
def Files.loadFactory (files : Files) : Option String → Except Error (Option ValueFactory)
  | none => .ok none
  | some path => do return some (← files.loadValueTable path).factory

/-! ### The commands -/

/-- Steps that may fail, with events on the way. -/
abbrev Told := ExceptT Failure (StateM (List Event))

/-- Find the hints that a request for a script asks for. -/
def GenerateRequest.find (request : GenerateRequest) (files : Files) : Told HintDocument := do
  let (registry, loaded) ← orFail (files.loadBindings request.schema)
  modify (· ++ loaded)
  let root : TypeName := ⟨request.root⟩
  if !registry.contains root then
    throw (.unknownType request.root)
  let factory ← orFail (files.loadFactory request.values)
  let generator := Generator.ofRegistry registry factory
  modify (· ++ generator.eventsFor root)
  match generator.hintsFor root with
  | some hints => return hints
  | none => throw (.noRootElement request.root)

/-- The hints that a request for a script asks for, or why there are none, and the events on the
way. -/
def GenerateRequest.hints (request : GenerateRequest) (files : Files) :
    Except Failure HintDocument × List Event := (request.find files).run []

/-- Answer a request for a script. A file is created only when there is something to write. -/
def GenerateRequest.perform (request : GenerateRequest) (files : Files) : Effect Unit := do
  let hints ← (request.hints files).1
  match request.output with
  | none => Effect.print ((← orFail (hints.encode request.options)) ++ "\n")
  | some path =>
    Effect.create files path
    Effect.append (← orFail (Sink.textOf (hints.writeLine request.options)))
    Effect.report ("Wrote " ++ toString hints.registry.size ++ " tags to " ++ path ++ "\n")

/-- The types that can be the root of a document, with their tags, in order of registration. -/
def Registry.roots (r : Registry) : List (String × String) :=
  r.bindings.filterMap fun b => b.tag?.map fun tag => (b.name.name, tag)

/-- The roots as JSON, sorted by type. -/
def rootsJson (roots : List (String × String)) : Json :=
  .object ((TagTable.ofList roots).entries.map fun e => (e.1, .string e.2))

/-- The roots as lines of text. -/
def rootsText (roots : List (String × String)) : String :=
  "=== Root Elements (" ++ toString roots.length ++ ") ===\n"
    ++ String.join (roots.map fun e => "  " ++ e.1 ++ " : <" ++ e.2 ++ ">\n")

/-- Answer a request for a list of the roots. -/
def RootsRequest.perform (request : RootsRequest) (files : Files) : Effect Unit := do
  let (registry, _) ← orFail (files.loadBindings request.schema)
  let roots := registry.roots
  Effect.print
    (if request.json then (rootsJson roots).text .indented ++ "\n" else rootsText roots)

def Command.perform (files : Files) : Command → Effect Unit
  | .generate request => request.perform files
  | .roots request => request.perform files

/-- All that a command writes, unless it fails. -/
def Command.run (files : Files) (command : Command) : Except Failure Output :=
  match (command.perform files).run .nothing with
  | (.ok (), output) => .ok output
  | (.error failure, _) => .error failure

/-- The events on the way of a command, whether it fails or not. A schema is an event when it has
been loaded, and nothing is told of one that is refused. -/
def Command.events (files : Files) : Command → List Event
  | .generate request => (request.hints files).2
  | .roots request =>
    match files.loadBindings request.schema with
    | .ok (_, events) => events
    | .error _ => []

/-- What comes of a command. -/
def Command.outcome (files : Files) (command : Command) : Outcome :=
  match command.run files with
  | .ok output => .done output
  | .error failure => .failed failure

def runCommandLine (files : Files) (words : List String) : Outcome :=
  match Invocation.parse words with
  | .error halt => .halted halt
  | .ok invocation => invocation.command.outcome files

end TagGrammar
