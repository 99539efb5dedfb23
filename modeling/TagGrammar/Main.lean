import TagGrammar.Command

/-!
# The program

The outer layer of the program: it reads the files that a command asks for, runs the command, and
writes what comes of it.
-/

namespace TagGrammar

/-- How the program is used. -/
def usage : String :=
  "XML autocompletion hint generator\n\n" ++
  "Usage: xmlhint [-v] generate -s SCHEMA -r TYPE [--values FILE] [--variable NAME]\n" ++
  "               [-p] [-o FILE]\n" ++
  "       xmlhint [-v] roots -s SCHEMA [-j]\n" ++
  "       xmlhint --help | --version\n"

/-- The fault behind an error of the system. -/
def faultOf : IO.Error → FileFault
  | .noFileOrDirectory .. => .missing
  | .permissionDenied .. => .denied
  | .inappropriateType _ code _ => if code = 20 then .notDirectory else .directory
  | e => .described (toString e)

/-- The text of a file, or why there is none. -/
def readText (path : String) : IO (Except FileFault String) := do
  try
    let bytes ← IO.FS.readBinFile path
    match String.fromUTF8? bytes with
    | some text => return .ok text
    | none => return .error .notUtf8
  catch e => return .error (faultOf e)

/-- Write a file, or tell why that cannot be. -/
def writeText (path text : String) : IO (Except FileFault Unit) := do
  try
    IO.FS.writeBinFile path text.toUTF8
    return .ok ()
  catch e => return .error (faultOf e)

/-- The paths of the files that a command reads. -/
def Command.inputs : Command → List String
  | .generate request => request.schema :: request.values.toList
  | .roots request => [request.schema]

/-- The files that a command reads, as they are now. -/
def readInputs (command : Command) : IO Files := do
  let mut texts := []
  for path in command.inputs do
    texts := (path, ← readText path) :: texts
  let known := texts
  return ⟨fun path => (known.lookup path).getD (.error .missing), fun _ => .ok ()⟩

/-- Show the events that matter, or all of them. -/
def showEvents (all : Bool) (events : List Event) : IO Unit :=
  for event in events do
    if all || event.level == .warning then
      IO.eprintln (" ".intercalate (event.fields.map fun f => f.1 ++ "=" ++ f.2))

/-- Tell why the program failed. -/
def report (failure : Failure) : IO UInt32 := do
  IO.eprintln ("Error: " ++ failure.message)
  return 1

/-- Run a command on the files of the system. -/
def runInvocation (invocation : Invocation) : IO UInt32 := do
  let files ← readInputs invocation.command
  showEvents invocation.verbose (invocation.command.events files)
  match invocation.command.run files with
  | .error failure => report failure
  | .ok output =>
    let written ← match output.file with
      | some (path, text) => writeText path text
      | none => pure (.ok ())
    match written with
    | .error fault => report (.notCreated fault)
    | .ok () =>
      IO.print output.stdout
      IO.eprint output.stderr
      return 0

end TagGrammar

def main (words : List String) : IO UInt32 := do
  match TagGrammar.Invocation.parse words with
  | .ok invocation => TagGrammar.runInvocation invocation
  | .error .help =>
    IO.print TagGrammar.usage
    return 0
  | .error .version =>
    IO.print TagGrammar.versionText
    return 0
  | .error (.fault fault) =>
    IO.eprintln ("error: " ++ fault.message ++ "\n\n" ++ TagGrammar.usage)
    return 2
