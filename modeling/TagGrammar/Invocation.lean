import TagGrammar.Script

/-!
# Invocations

What the words of a command line ask for. Options come as `--name value`, `--name=value`,
`-nvalue`, `-n=value` or `-n value`, flags as `--name` or `-n`, and short flags may share one dash.
An option or a flag may be given once at each level: before the command, and behind it. A word that
starts with a dash is never the value of the option before it.
-/

namespace TagGrammar

/-! ### Options -/

/-- Everything that is given with dashes. -/
inductive Switch where
  | verbose
  | help
  | version
  | schema
  | root
  | values
  | variable
  | pretty
  | output
  | json
  deriving DecidableEq, Repr

/-- What a switch takes as its value. -/
inductive Switch.Argument where
  | nothing
  | text
  /-- A path, which is not empty. -/
  | path
  deriving DecidableEq, Repr

namespace Switch

def argument : Switch → Argument
  | .verbose | .help | .version | .pretty | .json => .nothing
  | .root | .variable => .text
  | .schema | .values | .output => .path

/-- The name behind two dashes. -/
def longName : Switch → String
  | .verbose => "verbose"
  | .help => "help"
  | .version => "version"
  | .schema => "schema"
  | .root => "root"
  | .values => "values"
  | .variable => "variable"
  | .pretty => "pretty"
  | .output => "output"
  | .json => "json"

/-- The letter behind one dash. -/
def letter? : Switch → Option Char
  | .verbose => some 'v'
  | .help => some 'h'
  | .version => some 'V'
  | .schema => some 's'
  | .root => some 'r'
  | .pretty => some 'p'
  | .output => some 'o'
  | .json => some 'j'
  | .values => none
  | .variable => none

/-- The switches before the command. -/
def general : List Switch := [.verbose, .help, .version]

/-- The switches of the command that generates a script. -/
def ofGenerate : List Switch :=
  [.verbose, .help, .schema, .root, .values, .variable, .pretty, .output]

/-- The switches of the command that lists the roots. -/
def ofRoots : List Switch := [.verbose, .help, .schema, .json]

end Switch

/-- What is wrong with a command line. -/
inductive UsageFault where
  | noCommand
  | unknownCommand (word : String)
  | unexpected (word : String)
  | noValue (switch : Switch)
  | surplusValue (switch : Switch)
  | repeated (switch : Switch)
  | required (switch : Switch)
  deriving DecidableEq, Repr

def UsageFault.message : UsageFault → String
  | .noCommand => "a command is required: generate or roots"
  | .unknownCommand word => "unrecognized command '" ++ word ++ "'"
  | .unexpected word => "unexpected argument '" ++ word ++ "'"
  | .noValue switch => "a value is required for --" ++ switch.longName
  | .surplusValue switch => "no value is expected for --" ++ switch.longName
  | .repeated switch => "--" ++ switch.longName ++ " cannot be used multiple times"
  | .required switch => "--" ++ switch.longName ++ " is required"

/-- Why the words are not read to their end. -/
inductive Halt where
  | fault (fault : UsageFault)
  | help
  | version
  deriving DecidableEq, Repr

/-! ### Reading the words -/

/-- The switches given so far, with their values. -/
abbrev Given := List (Switch × String)

namespace Given

def value? (given : Given) (switch : Switch) : Option String := given.lookup switch

def has (given : Given) (switch : Switch) : Bool := (value? given switch).isSome

/-- The value of a switch that must be given. -/
def require (given : Given) (switch : Switch) : Except Halt String :=
  match value? given switch with
  | some value => .ok value
  | none => .error (.fault (.required switch))

/-- Add a switch with its value. Help and the version are given at once. -/
def add (given : Given) (switch : Switch) (value : String) : Except Halt Given :=
  if switch = .help then .error .help
  else if switch = .version then .error .version
  else if has given switch then .error (.fault (.repeated switch))
  else if switch.argument = .path ∧ value = "" then .error (.fault (.noValue switch))
  else .ok ((switch, value) :: given)

end Given

/-- Read the letters behind one dash. The last one may be an option whose value is the next word,
and is reported then. -/
def readLetters (word : String) (switches : List Switch) :
    Given → List Char → Except Halt (Given × Option Switch)
  | given, [] => .ok (given, none)
  | given, c :: cs =>
    match switches.find? (·.letter? == some c) with
    | none => .error (.fault (.unexpected word))
    | some switch =>
      if switch.argument = .nothing then do
        let given ← given.add switch ""
        readLetters word switches given cs
      else if cs.isEmpty then .ok (given, some switch)
      else do
        let value := if cs.head? = some '=' then cs.drop 1 else cs
        return (← given.add switch (String.ofList value), none)

/-- Read the name behind two dashes, with its value if there is an equals sign. An option without
one is reported: its value is the next word. -/
def readLongName (word : String) (switches : List Switch) (given : Given) (cs : List Char) :
    Except Halt (Given × Option Switch) :=
  let name := String.ofList (cs.takeWhile (· != '='))
  let value? :=
    if '=' ∈ cs then some (String.ofList ((cs.dropWhile (· != '=')).drop 1)) else none
  match switches.find? (·.longName == name), value? with
  | none, _ => .error (.fault (.unexpected word))
  | some switch, some value =>
    if switch.argument = .nothing then .error (.fault (.surplusValue switch))
    else do return (← given.add switch value, none)
  | some switch, none =>
    if switch.argument = .nothing then do return (← given.add switch "", none)
    else .ok (given, some switch)

/-- Whether a word starts with a dash and is more than that. -/
def isDashed (word : String) : Bool := word.startsWith "-" && word != "-"

/-- Read the switches at the start of the words, up to the first word without a dash. Two dashes
alone end the switches, and nothing may follow them. -/
def readSwitches (switches : List Switch) : Given → List String → Except Halt (Given × List String)
  | given, [] => .ok (given, [])
  | given, word :: words =>
    if word = "--" then
      match words with
      | [] => .ok (given, [])
      | next :: _ => .error (.fault (.unexpected next))
    else if isDashed word then do
      let read := if word.startsWith "--" then readLongName word switches given (word.toList.drop 2)
        else readLetters word switches given (word.toList.drop 1)
      match ← read with
      | (given, none) => readSwitches switches given words
      | (given, some switch) =>
        match words with
        | [] => .error (.fault (.noValue switch))
        | value :: words =>
          if isDashed value then .error (.fault (.noValue switch))
          else do
            let given ← given.add switch value
            readSwitches switches given words
    else .ok (given, word :: words)

/-- Read the switches of a command, behind which no word may be left. -/
def readCommandSwitches (switches : List Switch) (words : List String) : Except Halt Given := do
  let (given, rest) ← readSwitches switches [] words
  match rest with
  | [] => return given
  | word :: _ => .error (.fault (.unexpected word))

/-! ### Commands -/

/-- The request for a script. -/
structure GenerateRequest where
  schema : String
  /-- The type at the root. -/
  root : String
  values : Option String
  options : ScriptOptions
  output : Option String
  deriving DecidableEq, Repr

/-- The request for a list of the roots. -/
structure RootsRequest where
  schema : String
  json : Bool
  deriving DecidableEq, Repr

inductive Command where
  | generate (request : GenerateRequest)
  | roots (request : RootsRequest)
  deriving DecidableEq, Repr

/-- What a command line asks for. -/
structure Invocation where
  /-- Whether all events are to be shown. -/
  verbose : Bool
  command : Command
  deriving DecidableEq, Repr

namespace Invocation

/-- The request for a script in the switches given. -/
def generateRequest (given : Given) : Except Halt GenerateRequest := do
  let schema ← given.require .schema
  let root ← given.require .root
  return {
    schema, root
    values := given.value? .values
    options := ⟨(given.value? .variable).getD "tags", given.has .pretty⟩
    output := given.value? .output }

/-- The request for a list in the switches given. -/
def rootsRequest (given : Given) : Except Halt RootsRequest := do
  let schema ← given.require .schema
  return { schema, json := given.has .json }

/-- What the words of a command line ask for. -/
def parse (words : List String) : Except Halt Invocation := do
  let (general, rest) ← readSwitches Switch.general [] words
  match rest with
  | [] => .error (.fault .noCommand)
  | "generate" :: words =>
    let given ← readCommandSwitches Switch.ofGenerate words
    return ⟨general.has .verbose || given.has .verbose, .generate (← generateRequest given)⟩
  | "roots" :: words =>
    let given ← readCommandSwitches Switch.ofRoots words
    return ⟨general.has .verbose || given.has .verbose, .roots (← rootsRequest given)⟩
  | "help" :: [] => .error .help
  | "help" :: "generate" :: [] => .error .help
  | "help" :: "roots" :: [] => .error .help
  | "help" :: "help" :: [] => .error .help
  | word :: _ => .error (.fault (.unknownCommand word))

end Invocation

end TagGrammar
