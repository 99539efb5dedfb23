import TagGrammar.Proofs.DocumentValue
import TagGrammar.Proofs.Json.Places
import TagGrammar.Proofs.Writing

/-!
# Scripts decode to their documents

A script assigns the JSON value of a document to a variable. Behind the head of what is written a
reader of JSON finds one object, and it is the same object in both layouts: the top tags, the global
attributes, and then every tag with its attributes and its children (`script_decodes`).

The name of the variable is not checked, so it may hold anything, even another script. It cannot
hide where the value starts, since no part of a value looks like an assignment.
-/

namespace TagGrammar.HintDocument

theorem toList_script (h : HintDocument) (o : ScriptOptions) :
    (h.script o).toList = "var ".toList ++ ((o.variableName.toList ++
      ' ' :: '=' :: ' ' :: Json.render o.layout 0 h.toJson) ++ [';']) := by
  simp [script, ScriptOptions.head, jsonText, scriptEnd, Json.text]

theorem opensDocument_render (h : HintDocument) (layout : Json.Layout) :
    Json.OpensDocument (Json.render layout 0 h.toJson) := by
  cases layout with
  | compact => exact ⟨_, .inl rfl⟩
  | indented => exact ⟨_, .inr rfl⟩

theorem wellQuoted_render (h : HintDocument) (layout : Json.Layout) :
    Json.WellQuoted (Json.render layout 0 h.toJson) := (h.plain_toJson 0).wellQuoted layout 0

/-- The text of the value is determined by the script, whatever the names of the variables. -/
theorem render_eq_of_script_eq {h h' : HintDocument} {o o' : ScriptOptions}
    (hscript : h.script o = h'.script o') :
    Json.render o.layout 0 h.toJson = Json.render o'.layout 0 h'.toJson := by
  have hlists := congrArg String.toList hscript
  rw [toList_script, toList_script, List.append_cancel_left_eq,
    List.append_cancel_right_eq] at hlists
  -- the longer name has a part of the other script's value at its end, unless both are equal
  rcases List.append_eq_append_iff.1 hlists with ⟨part, _, hpart⟩ | ⟨part, _, hpart⟩
  · exact Json.eq_of_assignments (h.wellQuoted_render _) (h.opensDocument_render _)
      (h'.opensDocument_render _) hpart
  · exact (Json.eq_of_assignments (h'.wellQuoted_render _) (h'.opensDocument_render _)
      (h.opensDocument_render _) hpart).symm

theorem members_eq_of_script_eq {h h' : HintDocument} {o o' : ScriptOptions}
    (hscript : h.script o = h'.script o') : h.members = h'.members := by
  have htext : h.toJson.text o.layout = h'.toJson.text o'.layout :=
    congrArg String.ofList (render_eq_of_script_eq hscript)
  have hparse := h.parse_text_toJson o.layout
  rw [htext, h'.parse_text_toJson] at hparse
  exact (Json.object.inj (Except.ok.inj hparse)).symm

/-- Where scripts are written, nothing goes wrong, and equal texts are equal scripts. -/
theorem script_eq_of_encode_eq {h h' : HintDocument} {o o' : ScriptOptions} {s : String}
    (hs : h.encode o = .ok s) (hs' : h'.encode o' = .ok s) : h.script o = h'.script o' := by
  rw [encode_eq] at hs hs'
  exact (Except.ok.inj hs).trans (Except.ok.inj hs').symm

/-- What is written for a document is the head, a text, and a semicolon. Reading the text as JSON
gives one object, with the same members in both layouts: first the reserved keys, then every tag in
ascending order with its attributes in their order and its children in ascending order. No key
occurs twice in it. Documents for which the same is written agree on all of this, even if their
variables do not.

A document made for a root has no global attributes, so their key has an empty object. -/
theorem script_decodes {h : HintDocument} (htop : "!top" ∉ h.registry.tags)
    (hattrs : "!attrs" ∉ h.registry.tags) (hglobals : h.globalAttributes = .empty) :
    ∃ members : List (String × Json),
      members =
        ("!top", .array (h.topElements.map .string)) :: ("!attrs", .object []) ::
          h.registry.entries.map (fun e => (e.1, .object [
            ("attrs", .object (e.2.attributes.entries.map fun a => (a.1,
              match a.2 with
              | none => .null
              | some values => .array (values.members.map .string)))),
            ("children", .array (e.2.children.tags.map .string))])) ∧
      (members.map Prod.fst).Nodup ∧ h.registry.tags.Pairwise (· < ·) ∧
      (∀ e ∈ h.registry.entries, e.2.children.tags.Pairwise (· < ·)) ∧
      (∀ o : ScriptOptions, ∃ text,
        h.encode o = .ok ("var " ++ o.variableName ++ " = " ++ text ++ ";") ∧
          Json.parse text = .ok (.object members)) ∧
      ∀ (h' : HintDocument) (o o' : ScriptOptions) (s : String), h.encode o = .ok s →
        h'.encode o' = .ok s → h.topElements = h'.topElements ∧
          h.globalAttributes = h'.globalAttributes ∧ h.grammar = h'.grammar := by
  refine ⟨h.members, ?_, nodup_keys_members htop hattrs,
    List.pairwise_map.2 h.registry.ascending, fun e _ => e.2.children.ascending, ?_, ?_⟩
  · simp only [members, grammar, hglobals, List.map_map]
    rfl
  · intro o
    exact ⟨h.jsonText o, h.encode_eq o, h.parse_text_toJson o.layout⟩
  · intro h' o o' s hs hs'
    exact members_inj (members_eq_of_script_eq (script_eq_of_encode_eq hs hs'))

/-- A document with marks in its names and values. -/
def marked : HintDocument where
  topElements := ["a\"b"]
  globalAttributes := .empty
  registry := {
    entries := [
      ("a\"b", {
        tag := some "a\"b"
        attributes := ⟨[("two\nlines", none), ("é", some .empty),
          ("\\", some ⟨["\x01", " = ", "\""], by decide⟩)], by decide⟩
        children := ⟨["b", "z"], by decide⟩
        overrides := .empty }),
      ("b", .blank (some "b"))]
    ascending := by decide }

theorem script_decodes_marked :
    "!top" ∉ marked.registry.tags ∧ "!attrs" ∉ marked.registry.tags ∧
      marked.globalAttributes = .empty ∧ ∃ members : List (String × Json),
        members = [("!top", .array [.string "a\"b"]), ("!attrs", .object []),
          ("a\"b", .object [
            ("attrs", .object [("two\nlines", .null), ("é", .array []),
              ("\\", .array [.string "\x01", .string " = ", .string "\""])]),
            ("children", .array [.string "b", .string "z"])]),
          ("b", .object [("attrs", .object []), ("children", .array [])])] ∧
        (members.map Prod.fst).Nodup ∧
        (∀ o : ScriptOptions, ∃ text,
          marked.encode o = .ok ("var " ++ o.variableName ++ " = " ++ text ++ ";") ∧
            Json.parse text = .ok (.object members)) ∧
        ∀ (h' : HintDocument) (o o' : ScriptOptions) (s : String), marked.encode o = .ok s →
          h'.encode o' = .ok s → marked.topElements = h'.topElements ∧
            marked.globalAttributes = h'.globalAttributes ∧ marked.grammar = h'.grammar := by
  have htop : "!top" ∉ marked.registry.tags := by decide
  have hattrs : "!attrs" ∉ marked.registry.tags := by decide
  obtain ⟨members, hmembers, hnodup, _, _, hscript, hsame⟩ := script_decodes htop hattrs rfl
  exact ⟨htop, hattrs, rfl, members, hmembers, hnodup, hscript, hsame⟩

end TagGrammar.HintDocument
