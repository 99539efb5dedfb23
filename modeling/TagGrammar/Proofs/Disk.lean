import Mathlib.Logic.Function.Basic
import TagGrammar.Proofs.Commands

/-!
# What a script leaves on the disk

A command is run on a disk, where files are bytes. It reads some of them as texts, and what it
writes into a file is on the disk afterwards, whether it fails or not (`Command.aftermath`).

Asked for a script, it does the same with a file as with the standard output: the bytes are the same
when there is a script, and the error is the same when there is none
(`GenerateRequest.aftermath_toFile`). In the latter case the disk is as it was, for all that can go
wrong does so before the file is created.
-/

namespace TagGrammar

/-- Files of bytes. -/
structure Disk where
  bytes : (path : String) → Except FileFault (List UInt8)
  /-- Whether a file can be created. -/
  create : (path : String) → Except FileFault Unit

namespace Disk

/-- The text in a file. -/
def read (d : Disk) (path : String) : Except FileFault String := do
  match String.fromUTF8? ⟨(← d.bytes path).toArray⟩ with
  | some text => .ok text
  | none => .error .notUtf8

def files (d : Disk) : Files := ⟨d.read, d.create⟩

/-- The disk with a text in a file, in place of all that was there. -/
def put (d : Disk) (path text : String) : Disk :=
  { d with bytes := Function.update d.bytes path (.ok (utf8Bytes text)) }

/-- The disk with the file that was written. -/
def after (d : Disk) (output : Output) : Disk :=
  match output.file with
  | none => d
  | some (path, text) => d.put path text

theorem after_nothing (d : Disk) : d.after .nothing = d := rfl

theorem bytes_put_self (d : Disk) (path text : String) :
    (d.put path text).bytes path = .ok (utf8Bytes text) :=
  Function.update_self ..

theorem bytes_put_of_ne {path other : String} (d : Disk) (text : String) (h : other ≠ path) :
    (d.put path text).bytes other = d.bytes other :=
  Function.update_of_ne h ..

theorem read_of_bytes {d : Disk} {path text : String} (h : d.bytes path = .ok (utf8Bytes text)) :
    d.read path = .ok text := by
  rw [read, h, ok_bind, fromUTF8?_utf8Bytes]

end Disk

/-- What is left when a command has ended. -/
structure Aftermath where
  /-- The exit code. -/
  code : Nat
  stdout : List UInt8
  /-- What the command itself tells on the standard error. -/
  stderr : String
  /-- The events on the way. Those that are to be shown stand on the standard error as well, before
  what the command tells; how an event is put into a line is left open. -/
  events : List Event
  disk : Disk

/-- What a failure tells. -/
def Failure.report (failure : Failure) : String := "Error: " ++ failure.message ++ "\n"

/-- What is left when a command was run on a disk. -/
def Command.aftermath (d : Disk) (command : Command) : Aftermath :=
  match (command.perform d.files).run .nothing with
  | (.ok (), output) =>
    ⟨0, utf8Bytes output.stdout, output.stderr, command.events d.files, d.after output⟩
  | (.error failure, output) =>
    ⟨1, utf8Bytes output.stdout, output.stderr ++ failure.report, command.events d.files,
      d.after output⟩

/-- The exit code is that of the outcome. -/
theorem Command.code_aftermath (d : Disk) (command : Command) :
    (command.aftermath d).code = (command.outcome d.files).code := by
  cases h : (command.perform d.files).run .nothing with
  | mk result output =>
    cases result with
    | ok _ =>
      rw [aftermath, h, outcome_of_ok h]
      rfl
    | error failure =>
      rw [aftermath, h, outcome_of_error h]
      rfl

namespace GenerateRequest

variable {d : Disk} {request : GenerateRequest} {path : String}

def toStdout (request : GenerateRequest) : Command := .generate { request with output := none }

def toFile (request : GenerateRequest) (path : String) : Command :=
  .generate { request with output := some path }

/-- The hints do not depend on where the script goes. -/
theorem hints_output (files : Files) (output : Option String) :
    ({ request with output } : GenerateRequest).hints files = request.hints files := rfl

theorem events_eq {found : Except Failure HintDocument} {events : List Event}
    (h : request.hints d.files = (found, events)) (output : Option String) :
    (Command.generate { request with output }).events d.files = events := by
  rw [Command.events, hints_output, h]

theorem aftermath_of_error {failure : Failure} {events : List Event}
    (h : request.hints d.files = (.error failure, events)) (output : Option String) :
    (Command.generate { request with output }).aftermath d =
      ⟨1, [], failure.report, events, d⟩ := by
  have hnothing := perform_of_error ((hints_output d.files output).trans h)
  rw [Command.aftermath, Command.perform, hnothing, events_eq h]
  show Aftermath.mk 1 (utf8Bytes "") ("" ++ failure.report) events (d.after .nothing) = _
  rw [Disk.after_nothing, String.empty_append]
  rfl

theorem aftermath_toStdout {doc : HintDocument} {events : List Event}
    (h : request.hints d.files = (.ok doc, events)) :
    request.toStdout.aftermath d =
      ⟨0, utf8Bytes (doc.script request.options ++ "\n"), "", events, d⟩ := by
  have hperform := perform_of_stdout ((hints_output d.files none).trans h) rfl
  rw [toStdout, Command.aftermath, Command.perform, hperform, events_eq h]
  rfl

theorem aftermath_toFile_of_hints {doc : HintDocument} {events : List Event}
    (h : request.hints d.files = (.ok doc, events)) (hcreate : d.create path = .ok ()) :
    ∃ report, (request.toFile path).aftermath d =
      ⟨0, [], report, events, d.put path (doc.script request.options ++ "\n")⟩ := by
  obtain ⟨report, hperform⟩ :=
    perform_of_file ((hints_output d.files (some path)).trans h) rfl hcreate
  refine ⟨report, ?_⟩
  rw [toFile, Command.aftermath, Command.perform, hperform, events_eq h]
  rfl

/-- A request for a script is run once for the standard output and once for a file, on the same
disk. If the first run succeeds, it prints the script and a line break and nothing else. Then the
second run succeeds, too, if the file can be created; it prints nothing, and the file is there with
the same bytes, while the other files are as they were. If the first run fails, both fail with the
same error, neither prints anything, and both leave the disk as it was. The events on the way are
the same in any case. -/
theorem aftermath_toFile (d : Disk) (request : GenerateRequest) (path : String) :
    ((request.toStdout.aftermath d).code = 0 →
      (∃ doc events, request.hints d.files = (.ok doc, events) ∧
        request.toStdout.aftermath d =
          ⟨0, utf8Bytes (doc.script request.options ++ "\n"), "", events, d⟩) ∧
      (d.create path = .ok () →
        ((request.toFile path).aftermath d).code = 0 ∧
        ((request.toFile path).aftermath d).stdout = [] ∧
        ((request.toFile path).aftermath d).events = (request.toStdout.aftermath d).events ∧
        ((request.toFile path).aftermath d).disk.bytes path =
          .ok (request.toStdout.aftermath d).stdout ∧
        ∀ other, other ≠ path →
          ((request.toFile path).aftermath d).disk.bytes other = d.bytes other)) ∧
    ((request.toStdout.aftermath d).code ≠ 0 →
      ∃ failure events, request.hints d.files = (.error failure, events) ∧
        request.toStdout.aftermath d = ⟨1, [], failure.report, events, d⟩ ∧
        (request.toFile path).aftermath d = ⟨1, [], failure.report, events, d⟩) := by
  -- both runs begin with the hints, and nothing is written before they are there
  rcases hhints : request.hints d.files with ⟨failure | doc, events⟩
  case error =>
    have hstdout : request.toStdout.aftermath d = ⟨1, [], failure.report, events, d⟩ :=
      aftermath_of_error hhints none
    have hfile : (request.toFile path).aftermath d = ⟨1, [], failure.report, events, d⟩ :=
      aftermath_of_error hhints (some path)
    constructor
    · intro hcode
      rw [hstdout] at hcode
      cases hcode
    · intro _
      exact ⟨failure, events, rfl, hstdout, hfile⟩
  case ok =>
    have hstdout := aftermath_toStdout hhints
    constructor
    · intro _
      refine ⟨⟨doc, events, rfl, hstdout⟩, ?_⟩
      intro hcreate
      obtain ⟨report, hfile⟩ := aftermath_toFile_of_hints hhints hcreate
      rw [hfile, hstdout]
      refine ⟨rfl, rfl, rfl, Disk.bytes_put_self .., ?_⟩
      intro other hother
      exact Disk.bytes_put_of_ne d _ hother
    · intro hcode
      rw [hstdout] at hcode
      exact absurd rfl hcode

end GenerateRequest

/-! ### Shirts and hats

There is a script for shirts, and none for hats. -/

namespace Wardrobe

/-- The only file is the wardrobe. -/
def disk : Disk where
  bytes path :=
    if path = "wardrobe.json" then .ok (utf8Bytes (json.text .indented)) else .error .missing
  create _ := .ok ()

theorem aftermath_wardrobe :
    ((requestFor "Shirt").toStdout.aftermath disk).code = 0 ∧
    disk.create "shirt.js" = .ok () ∧
    (((requestFor "Shirt").toFile "shirt.js").aftermath disk).disk.bytes "shirt.js" =
      .ok ((requestFor "Shirt").toStdout.aftermath disk).stdout ∧
    ((requestFor "Hat").toStdout.aftermath disk).code ≠ 0 ∧
    ((requestFor "Hat").toFile "hat.js").aftermath disk =
      ⟨1, [], "Error: Unknown type: Hat\n", [.loadedSchema 2 2], disk⟩ := by
  obtain ⟨r, hparse, hbindings⟩ := exists_parseBindings
  have hread : disk.files.read "wardrobe.json" = .ok (json.text .indented) := by
    apply Disk.read_of_bytes
    simp [disk]
  have hshirt : ((requestFor "Shirt").toStdout.aftermath disk).code = 0 := by
    have htag : r.tag? ⟨"Shirt"⟩ = some "shirt" := by
      rw [Registry.tag?, Registry.get?, hbindings]
      decide +kernel
    have hgenerates : ∃ doc, (requestFor "Shirt").Generates disk.files doc ∧
        doc.topElements = ["shirt"] ∧ "shirt" ∈ doc.registry.tags :=
      GenerateRequest.exists_generates_of_tag? hread hparse rfl (fun _ _ => rfl) htag
    obtain ⟨doc, hdoc, _⟩ := hgenerates
    rw [Command.code_aftermath]
    exact hdoc.code
  have hhints : (requestFor "Hat").hints disk.files =
      (.error (.unknownType "Hat"), [.loadedSchema 2 2]) := by
    have hload : disk.files.loadBindings (requestFor "Hat").schema =
        .ok (r, [.loadedSchema 2 2]) := by
      rw [parseBindings, parse_json] at hparse
      exact Files.loadBindings_eq hread parse_json hparse
    have hhat : (⟨"Hat"⟩ : TypeName) ∉ r.knownTypes := by
      rw [Registry.knownTypes, hbindings]
      decide
    rw [GenerateRequest.hints_eq hload rfl]
    exact if_neg hhat
  have hhat : ((requestFor "Hat").toStdout.aftermath disk).code ≠ 0 := by
    have hrefused : (requestFor "Hat").toStdout.aftermath disk = _ :=
      GenerateRequest.aftermath_of_error hhints none
    rw [hrefused]
    exact Nat.one_ne_zero
  obtain ⟨hprinted, _⟩ := GenerateRequest.aftermath_toFile disk (requestFor "Shirt") "shirt.js"
  obtain ⟨_, _, _, hbytes, _⟩ := (hprinted hshirt).2 rfl
  obtain ⟨_, hfailed⟩ := GenerateRequest.aftermath_toFile disk (requestFor "Hat") "hat.js"
  obtain ⟨failure, events, hfailure, _, hsaved⟩ := hfailed hhat
  rw [hhints] at hfailure
  cases hfailure
  exact ⟨hshirt, rfl, hbytes, hhat, hsaved⟩

end Wardrobe

end TagGrammar
