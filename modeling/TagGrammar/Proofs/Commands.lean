import TagGrammar.Command
import TagGrammar.Proofs.Document
import TagGrammar.Proofs.Json.RoundTrip
import TagGrammar.Proofs.Schema.Meaning
import TagGrammar.Proofs.Writing

/-!
# What commands do

The command that lists the roots reads their tags off the bindings, and the command that generates a
script walks from the root and takes the tag from what it found. For every schema the two agree on
which types are roots, and under which tags (`roots_agree_with_generate`).

A request for a script is settled by its hints: where there are none it fails, wherever the script
was to go, and where there are some the script is written in full.
-/

namespace TagGrammar

/-! ## Effects -/

@[simp] theorem lift_ok_bind {σ α β : Type} (a : α) (next : α → ExceptT Failure (StateM σ) β) :
    (liftM (Except.ok a : Except Failure α) >>= next) = next a := rfl

namespace Effect

variable {α β : Type} {files : Files}

@[simp] theorem run_lift_error_bind (failure : Failure) (next : α → Effect β) (o : Output) :
    (liftM (Except.error failure : Except Failure α) >>= next).run o = (.error failure, o) := rfl

@[simp] theorem run_print (text : String) (o : Output) :
    (print text).run o = (.ok (), { o with stdout := o.stdout ++ text }) := rfl

@[simp] theorem run_report (text : String) (o : Output) :
    (report text).run o = (.ok (), { o with stderr := o.stderr ++ text }) := rfl

@[simp] theorem run_append_bind (text : String) (next : Unit → Effect β) (o : Output) :
    (append text >>= next).run o =
      (next ()).run { o with file := o.file.map fun f => (f.1, f.2 ++ text) } := rfl

theorem run_create_bind {path : String} (h : files.create path = .ok ()) (next : Unit → Effect β)
    (o : Output) :
    (create files path >>= next).run o = (next ()).run { o with file := some (path, "") } := by
  rw [create, h]
  rfl

end Effect

/-! ## Outcomes -/

namespace Command

variable {files : Files} {command : Command} {output : Output}

theorem outcome_of_ok (h : (command.perform files).run .nothing = (.ok (), output)) :
    command.outcome files = .done output := by
  rw [outcome, run, h]

theorem outcome_of_error {failure : Failure}
    (h : (command.perform files).run .nothing = (.error failure, output)) :
    command.outcome files = .failed failure := by
  rw [outcome, run, h]

end Command

/-! ## Requests for scripts -/

section Loading

variable {files : Files} {path text : String} {s : Schema} {r : Registry}

/-- The registry that is loaded from a file is the registry that its schema describes. -/
theorem Files.loadBindings_eq (hread : files.read path = .ok text)
    (hparse : Schema.parse text = .ok s) (hregistry : s.toRegistry = .ok r) :
    files.loadBindings path = .ok (r, [s.loadedEvent]) := by
  have htext : files.text path = .ok text := by
    rw [Files.text, hread]
  rw [Files.loadBindings, htext, ok_bind, TagGrammar.loadBindings, hparse, ok_bind, hregistry,
    ok_bind]
  rfl

theorem Files.exists_loadBindings_eq (hread : files.read path = .ok text)
    (hparse : parseBindings text = .ok r) :
    ∃ events, files.loadBindings path = .ok (r, events) := by
  obtain ⟨s, hs, hr⟩ := bind_eq_ok_iff.1 hparse
  exact ⟨[s.loadedEvent], Files.loadBindings_eq hread hs hr⟩

end Loading

namespace GenerateRequest

variable {files : Files} {request : GenerateRequest} {text : String} {r : Registry}

/-- Without a table of values, the hints for a root are those over the registry of the schema. -/
theorem hints_eq {loaded : List Event}
    (hload : files.loadBindings request.schema = .ok (r, loaded))
    (hvalues : request.values = none) :
    request.hints files =
      if ⟨request.root⟩ ∈ r.knownTypes then
        (match (Generator.ofRegistry r none).hintsFor ⟨request.root⟩ with
          | some doc => .ok doc
          | none => .error (.noRootElement request.root),
          loaded ++ (Generator.ofRegistry r none).eventsFor ⟨request.root⟩)
      else (.error (.unknownType request.root), loaded) := by
  rw [hints, find, hload, hvalues]
  simp only [orFail, Files.loadFactory, lift_ok_bind, Registry.contains]
  by_cases hroot : (⟨request.root⟩ : TypeName) ∈ r.knownTypes
  · simp only [hroot, if_true]
    cases (Generator.ofRegistry r none).hintsFor ⟨request.root⟩ <;> rfl
  · simp only [hroot, if_false]
    rfl

/-- A request without hints fails before anything is written, wherever the script was to go. -/
theorem perform_of_error {failure : Failure} {events : List Event}
    (h : request.hints files = (.error failure, events)) :
    (request.perform files).run .nothing = (.error failure, .nothing) := by
  rw [perform, h, Effect.run_lift_error_bind]

/-- A script that goes to the standard output has a line break behind it. -/
theorem perform_of_stdout {doc : HintDocument} {events : List Event}
    (h : request.hints files = (.ok doc, events)) (hout : request.output = none) :
    (request.perform files).run .nothing =
      (.ok (), ⟨doc.script request.options ++ "\n", "", none⟩) := by
  rw [perform, h, hout, lift_ok_bind]
  simp [HintDocument.encode_eq, orFail, Output.nothing]

/-- A script that goes into a file has a line break behind it, too, and nothing else is written but
a report. -/
theorem perform_of_file {doc : HintDocument} {events : List Event} {path : String}
    (h : request.hints files = (.ok doc, events)) (hout : request.output = some path)
    (hcreate : files.create path = .ok ()) : ∃ report,
      (request.perform files).run .nothing =
        (.ok (), ⟨"", report, some (path, doc.script request.options ++ "\n")⟩) := by
  refine ⟨"Wrote " ++ toString doc.registry.size ++ " tags to " ++ path ++ "\n", ?_⟩
  rw [perform, h, hout, lift_ok_bind]
  simp [HintDocument.textOf_writeLine, orFail, Effect.run_create_bind hcreate, Output.nothing]

end GenerateRequest

/-! ## Roots -/

namespace Registry

variable {r : Registry}

/-- The roots are the registered types with a tag. -/
theorem mem_roots_iff {type tag : String} : (type, tag) ∈ r.roots ↔ r.tag? ⟨type⟩ = some tag := by
  have hbinding : (type, tag) ∈ r.roots ↔
      ∃ b, r.get? ⟨type⟩ = some b ∧ b.tag? = some tag := by
    simp only [roots, List.mem_filterMap, get?_eq_some_iff, Option.map_eq_some_iff, Prod.mk.injEq]
    constructor
    · rintro ⟨b, hb, t, ht, hname, rfl⟩
      exact ⟨b, ⟨hb, by rw [← hname]⟩, ht⟩
    · rintro ⟨b, ⟨hb, hname⟩, ht⟩
      exact ⟨b, hb, tag, ht, by rw [hname], rfl⟩
  rw [hbinding, tag?, Option.bind_eq_some_iff]

/-- The roots stand in the order of their registration. -/
theorem sublist_roots (r : Registry) :
    (r.roots.map Prod.fst).Sublist (r.knownTypes.map (·.name)) := by
  unfold roots knownTypes
  induction r.bindings with
  | nil => exact List.Sublist.refl _
  | cons b bs ih =>
    rw [List.filterMap_cons]
    cases b.tag? with
    | none => exact ih.cons _
    | some tag => exact ih.cons_cons _

/-- No type is listed twice. -/
theorem nodup_roots (r : Registry) : (r.roots.map Prod.fst).Nodup := by
  have hnames : (r.knownTypes.map (·.name)).Nodup := by
    apply List.Nodup.map _ r.nodup_names
    intro a b hab
    cases a
    cases b
    simpa using hab
  exact r.sublist_roots.nodup hnames

end Registry

/-- The JSON list of roots is read back, with the line break behind it. -/
theorem parse_rootsJson (roots : List (String × String)) :
    Json.parse ((rootsJson roots).text .indented ++ "\n") = .ok (rootsJson roots) := by
  have hplain : Json.Plain Json.depthLimit (rootsJson roots) := by
    constructor
    intro m hm
    obtain ⟨e, _, rfl⟩ := List.mem_map.1 hm
    exact .string e.2
  have hbreak : ∀ c ∈ "\n".toList, Json.isBlank c := by
    simp [Json.isBlank]
  exact Json.parse_of_isTextOf (Json.isTextOf_text_append hplain .indented hbreak)

/-- The JSON list of roots has a member for each root, and they are sorted by type. -/
theorem members_rootsJson {roots : List (String × String)} (hnodup : (roots.map Prod.fst).Nodup) :
    ∃ members, rootsJson roots = .object members ∧
      members.Perm (roots.map fun e => (e.1, .string e.2)) ∧
        (members.map Prod.fst).Pairwise (· < ·) := by
  refine ⟨_, rfl, ?_, ?_⟩
  · apply List.Perm.map
    rw [List.perm_ext_iff_of_nodup (TagTable.nodup_tags _).of_map hnodup.of_map]
    rintro ⟨type, tag⟩
    rw [← TagTable.get?_eq_some_iff]
    exact TagTable.get?_ofList_eq_some_iff hnodup
  · rw [List.map_map]
    exact List.pairwise_map.2 (TagTable.ofList roots).ascending

namespace RootsRequest

theorem outcome_of_parse {files : Files} {schema text : String} {r : Registry}
    (hread : files.read schema = .ok text) (hparse : parseBindings text = .ok r) (json : Bool) :
    (Command.roots ⟨schema, json⟩).outcome files =
      .done ⟨if json then (rootsJson r.roots).text .indented ++ "\n" else rootsText r.roots,
        "", none⟩ := by
  obtain ⟨events, hload⟩ := Files.exists_loadBindings_eq hread hparse
  apply Command.outcome_of_ok
  rw [Command.perform, perform, hload]
  simp [orFail, Output.nothing]

end RootsRequest

/-! ## The two commands agree on the roots -/

/-- What a command has written, be it into a file or not. -/
def Output.written (output : Output) : String :=
  match output.file with
  | none => output.stdout
  | some (_, text) => text

namespace GenerateRequest

variable {files : Files} {request : GenerateRequest}

/-- The script can be written where it is wanted. -/
def CanWrite (request : GenerateRequest) (files : Files) : Prop :=
  ∀ path, request.output = some path → files.create path = .ok ()

/-- The request is answered with the script of the document. -/
structure Generates (request : GenerateRequest) (files : Files) (doc : HintDocument) : Prop where
  hints : ∃ events, request.hints files = (.ok doc, events)
  code : ((Command.generate request).outcome files).code = 0
  written : ∃ output, (Command.generate request).outcome files = .done output ∧
    output.written = doc.script request.options ++ "\n"

theorem generates_of_hints {doc : HintDocument} {events : List Event}
    (h : request.hints files = (.ok doc, events)) (hwrite : request.CanWrite files) :
    request.Generates files doc := by
  obtain ⟨output, hperform, hwritten⟩ : ∃ output,
      (request.perform files).run .nothing = (.ok (), output) ∧
        output.written = doc.script request.options ++ "\n" := by
    cases hout : request.output with
    | none => exact ⟨_, perform_of_stdout h hout, rfl⟩
    | some path =>
      obtain ⟨report, hperform⟩ := perform_of_file h hout (hwrite path hout)
      exact ⟨_, hperform, rfl⟩
  have houtcome : (Command.generate request).outcome files = .done output :=
    Command.outcome_of_ok hperform
  exact ⟨⟨events, h⟩, by rw [houtcome, Outcome.code], output, houtcome, hwritten⟩

theorem Generates.doc_unique {doc doc' : HintDocument} (h : request.Generates files doc)
    (h' : request.Generates files doc') : doc = doc' := by
  obtain ⟨events, hints⟩ := h.hints
  obtain ⟨events', hints'⟩ := h'.hints
  rw [hints] at hints'
  cases hints'
  rfl

section Schema

variable {text tag : String} {r : Registry}

/-- A script is generated for every root of the schema, and the tag of the root stands at the
top. -/
theorem exists_generates_of_tag? (hread : files.read request.schema = .ok text)
    (hparse : parseBindings text = .ok r) (hvalues : request.values = none)
    (hwrite : request.CanWrite files) (htag : r.tag? ⟨request.root⟩ = some tag) :
    ∃ doc, request.Generates files doc ∧ doc.topElements = [tag] ∧ tag ∈ doc.registry.tags := by
  obtain ⟨_, hload⟩ := Files.exists_loadBindings_eq hread hparse
  have hhints := hints_eq hload hvalues
  obtain ⟨b, hb, _⟩ := Option.bind_eq_some_iff.1 htag
  have hroot : (⟨request.root⟩ : TypeName) ∈ r.knownTypes := Registry.mem_knownTypes_of_get? hb
  obtain ⟨doc, hdoc, htop, hkey⟩ : ∃ doc,
      (Generator.ofRegistry r none).hintsFor ⟨request.root⟩ = some doc ∧
        doc.topElements = [tag] ∧ tag ∈ doc.registry.tags :=
    Generator.exists_hintsFor htag
  rw [if_pos hroot, hdoc] at hhints
  exact ⟨doc, generates_of_hints hhints hwrite, htop, hkey⟩

/-- A type without a tag has no script, and the failure says why. -/
theorem outcome_of_tag?_eq_none (hread : files.read request.schema = .ok text)
    (hparse : parseBindings text = .ok r) (hvalues : request.values = none)
    (htag : r.tag? ⟨request.root⟩ = none) :
    (Command.generate request).outcome files = .failed
      (if ⟨request.root⟩ ∈ r.knownTypes then .noRootElement request.root
      else .unknownType request.root) := by
  obtain ⟨_, hload⟩ := Files.exists_loadBindings_eq hread hparse
  have hhints := hints_eq hload hvalues
  have hdoc : (Generator.ofRegistry r none).hintsFor ⟨request.root⟩ = none := by
    rw [Generator.hintsFor_eq]
    exact congrArg (Option.map _) htag
  have herror : ∃ events, request.hints files = (.error
      (if ⟨request.root⟩ ∈ r.knownTypes then .noRootElement request.root
      else .unknownType request.root), events) := by
    rw [hhints, hdoc]
    split
    · exact ⟨_, rfl⟩
    · exact ⟨_, rfl⟩
  obtain ⟨events, herror⟩ := herror
  exact Command.outcome_of_error (perform_of_error herror)

end Schema

end GenerateRequest

/-- Both commands read one schema, which is accepted. The list of roots shows every type with a tag
once, in the order of registration; as JSON it shows the same types and tags, sorted by type. A type
is listed with a tag exactly if a script is generated for it, with this tag alone at the top and an
entry for it. For any other type there is no script: the type is unknown if it is not declared, and
has no root element if it is. -/
theorem roots_agree_with_generate {files : Files} {schema text : String} {r : Registry}
    (hread : files.read schema = .ok text) (hparse : parseBindings text = .ok r) :
    (Command.roots ⟨schema, false⟩).outcome files =
        .done ⟨"=== Root Elements (" ++ toString r.roots.length ++ ") ===\n" ++
          String.join (r.roots.map fun e => "  " ++ e.1 ++ " : <" ++ e.2 ++ ">\n"), "", none⟩ ∧
      (∃ stdout members, (Command.roots ⟨schema, true⟩).outcome files = .done ⟨stdout, "", none⟩ ∧
        Json.parse stdout = .ok (.object members) ∧
          members.Perm (r.roots.map fun e => (e.1, .string e.2)) ∧
            (members.map Prod.fst).Pairwise (· < ·)) ∧
      (r.roots.map Prod.fst).Nodup ∧
      (r.roots.map Prod.fst).Sublist (r.knownTypes.map (·.name)) ∧
      ∀ request : GenerateRequest, request.schema = schema → request.values = none →
        request.CanWrite files →
          (∀ tag, (request.root, tag) ∈ r.roots ↔ ∃ doc, request.Generates files doc ∧
            doc.topElements = [tag] ∧ tag ∈ doc.registry.tags) ∧
          ((∀ tag, (request.root, tag) ∉ r.roots) →
            ((Command.generate request).outcome files).code = 1 ∧
              (Command.generate request).outcome files = .failed
                (if ⟨request.root⟩ ∈ r.knownTypes then .noRootElement request.root
                else .unknownType request.root)) := by
  refine ⟨RootsRequest.outcome_of_parse hread hparse false, ?_, r.nodup_roots, r.sublist_roots, ?_⟩
  · obtain ⟨members, hmembers, hperm, hsorted⟩ := members_rootsJson r.nodup_roots
    refine ⟨_, members, RootsRequest.outcome_of_parse hread hparse true, ?_, hperm, hsorted⟩
    rw [← hmembers]
    exact parse_rootsJson r.roots
  · rintro request rfl hvalues hwrite
    have hgenerates : ∀ tag, r.tag? ⟨request.root⟩ = some tag → ∃ doc,
        request.Generates files doc ∧ doc.topElements = [tag] ∧ tag ∈ doc.registry.tags := by
      intro tag htag
      exact GenerateRequest.exists_generates_of_tag? hread hparse hvalues hwrite htag
    have hfails := GenerateRequest.outcome_of_tag?_eq_none hread hparse hvalues
    simp only [Registry.mem_roots_iff]
    constructor
    · intro tag
      constructor
      · exact hgenerates tag
      · rintro ⟨doc, hdoc, htop, _⟩
        cases htag : r.tag? ⟨request.root⟩ with
        | none =>
          -- without a tag the command fails, and a script was generated
          have hcode := hdoc.code
          rw [hfails htag] at hcode
          cases hcode
        | some tag' =>
          -- the one script has the tag that is listed at the top
          obtain ⟨doc', hdoc', htop', _⟩ := hgenerates tag' htag
          rw [hdoc.doc_unique hdoc', htop'] at htop
          exact congrArg some (List.singleton_inj.1 htop)
    · intro hnone
      have houtcome := hfails (Option.eq_none_iff_forall_ne_some.2 hnone)
      rw [houtcome]
      exact ⟨rfl, rfl⟩

/-! ### The roots of a wardrobe

Shirts are roots, and buttons are declared but no roots. There are no hats. -/

namespace Wardrobe

/-- The only file is the wardrobe, and any file can be created. -/
def files : Files where
  read path := if path = "wardrobe.json" then .ok (json.text .indented) else .error .missing
  create _ := .ok ()

def requestFor (root : String) : GenerateRequest := ⟨"wardrobe.json", root, none, {}, none⟩

theorem roots_agree_with_generate_wardrobe : ∃ r,
    files.read "wardrobe.json" = .ok (json.text .indented) ∧
      parseBindings (json.text .indented) = .ok r ∧
      r.roots = [("Shirt", "shirt")] ∧
      (∃ doc, (requestFor "Shirt").Generates files doc ∧ doc.topElements = ["shirt"] ∧
        "shirt" ∈ doc.registry.tags) ∧
      (Command.generate (requestFor "Button")).outcome files = .failed (.noRootElement "Button") ∧
      (Command.generate (requestFor "Hat")).outcome files = .failed (.unknownType "Hat") := by
  obtain ⟨r, hparse, hbindings⟩ := exists_parseBindings
  have hread : files.read "wardrobe.json" = .ok (json.text .indented) := rfl
  have hroots : r.roots = [("Shirt", "shirt")] := by
    rw [Registry.roots, hbindings]
    decide +kernel
  have hknown : r.knownTypes = [⟨"Shirt"⟩, ⟨"Button"⟩] := by
    rw [Registry.knownTypes, hbindings]
    rfl
  have hwrite : ∀ root, (requestFor root).CanWrite files := fun _ _ _ => rfl
  obtain ⟨_, _, _, _, hall⟩ := roots_agree_with_generate hread hparse
  obtain ⟨hshirt, _⟩ := hall (requestFor "Shirt") rfl rfl (hwrite _)
  obtain ⟨_, hbutton⟩ := hall (requestFor "Button") rfl rfl (hwrite _)
  obtain ⟨_, hhat⟩ := hall (requestFor "Hat") rfl rfl (hwrite _)
  rw [hroots] at hshirt hbutton hhat
  refine ⟨r, hread, hparse, hroots, (hshirt "shirt").1 (by decide), ?_, ?_⟩
  · obtain ⟨_, houtcome⟩ := hbutton (by simp [requestFor])
    rw [houtcome, hknown]
    rfl
  · obtain ⟨_, houtcome⟩ := hhat (by simp [requestFor])
    rw [houtcome, hknown]
    rfl

end Wardrobe

end TagGrammar
