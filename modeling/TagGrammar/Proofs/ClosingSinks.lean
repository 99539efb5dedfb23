import TagGrammar.Proofs.Writing

/-!
# Sinks that close

A sink with a limit takes the first bytes of what it is given, up to its limit, and then closes.
What is in it afterwards does not depend on how the bytes were cut into pieces (`offerAll_eq`), and
it is always the beginning of the script. Only the error tells in which part of the script the sink
has closed:

    writeScript_ofCapacity : h.writeScript o (.ofCapacity n reason) =
      (.filled n reason (utf8Bytes (h.script o)), h.outcomeAt o n reason)
-/

namespace TagGrammar

namespace Sink

variable {s : Sink} {n : Nat} {reason : String} {failure : Error}
  {sent bytes first second : List UInt8}

/-! ## Bytes in pieces -/

/-- Write bytes; if not all of them are taken, the error is the one given. -/
def offer (s : Sink) (bytes : List UInt8) (failure : Error) : Sink × Except Error Unit :=
  (s.accept bytes, if bytes.length ≤ (s.share bytes).length then .ok () else .error failure)

theorem andThen_error (s : Sink) (e : Error) (next : Sink → Sink × Except Error Unit) :
    andThen (s, .error e) next = (s, .error e) := rfl

theorem write_eq_offer (s : Sink) (text : String) (failure : Error) :
    s.write text failure = s.offer (utf8Bytes text) failure := rfl

/-- Write pieces one after another, up to the first of which not all is taken. -/
def offerAll (failure : Error) : List (List UInt8) → Sink → Sink × Except Error Unit
  | [], s => (s, .ok ())
  | piece :: pieces, s => andThen (s.offer piece failure) (offerAll failure pieces)

/-- A sink that has a limit takes what comes first. -/
theorem share_of_capacity (h : s.capacity = some n) (bytes : List UInt8) :
    s.share bytes = bytes.take (n - s.accepted.length) := by
  rw [share, h]

theorem share_of_unlimited (h : s.capacity = none) (bytes : List UInt8) :
    s.share bytes = bytes := by
  rw [share, h]

/-- The first piece leaves to the second one what it leaves to its own rest. -/
theorem share_append (s : Sink) (first second : List UInt8) :
    s.share (first ++ second) = s.share first ++ (s.accept first).share second := by
  cases h : s.capacity with
  | none =>
    have h' : (s.accept first).capacity = none := h
    rw [share_of_unlimited h, share_of_unlimited h, share_of_unlimited h']
  | some n =>
    have h' : (s.accept first).capacity = some n := h
    rw [share_of_capacity h, share_of_capacity h, share_of_capacity h', List.take_append]
    congr 2
    simp only [accept, share_of_capacity h, List.length_append, List.length_take]
    omega

theorem accept_append (s : Sink) (first second : List UInt8) :
    s.accept (first ++ second) = (s.accept first).accept second := by
  unfold accept
  rw [share_append, List.append_assoc]
  rfl

theorem length_share_le (s : Sink) (bytes : List UInt8) :
    (s.share bytes).length ≤ bytes.length := by
  cases h : s.capacity with
  | none => exact Nat.le_of_eq (congrArg List.length (share_of_unlimited h bytes))
  | some n =>
    rw [share_of_capacity h]
    exact List.length_take_le' ..

theorem accept_of_share_eq_nil (h : s.share bytes = []) : s.accept bytes = s := by
  rw [accept, h, List.append_nil]

/-- A sink that has not taken all of a piece takes nothing more. -/
theorem share_eq_nil_of_closed (h : (s.share first).length < first.length) (second : List UInt8) :
    (s.accept first).share second = [] := by
  cases hs : s.capacity with
  | none =>
    rw [share_of_unlimited hs] at h
    exact absurd h (Nat.lt_irrefl _)
  | some n =>
    have hs' : (s.accept first).capacity = some n := hs
    rw [share_of_capacity hs, List.length_take] at h
    rw [share_of_capacity hs', List.take_eq_nil_iff]
    left
    simp only [accept, share_of_capacity hs, List.length_append, List.length_take]
    omega

theorem offer_append (s : Sink) (first second : List UInt8) (failure : Error) :
    andThen (s.offer first failure) (·.offer second failure) =
      s.offer (first ++ second) failure := by
  have hfirst := length_share_le s first
  unfold offer
  rw [accept_append, share_append, List.length_append, List.length_append]
  by_cases h : first.length ≤ (s.share first).length
  · have hsecond : first.length + second.length ≤
        (s.share first).length + ((s.accept first).share second).length ↔
          second.length ≤ ((s.accept first).share second).length := by omega
    rw [if_pos h, andThen_ok]
    simp only [hsecond]
  · -- what is left of the first piece is more than the second one could make up for
    have hclosed := share_eq_nil_of_closed (Nat.not_le.1 h) second
    have hmore : ¬ first.length + second.length ≤
        (s.share first).length + ((s.accept first).share second).length := by
      rw [hclosed, List.length_nil]
      omega
    rw [if_neg h, if_neg hmore, accept_of_share_eq_nil hclosed, andThen_error]

/-- It makes no difference how bytes are cut into pieces. -/
theorem offerAll_eq (pieces : List (List UInt8)) (s : Sink) (failure : Error) :
    offerAll failure pieces s = s.offer pieces.flatten failure := by
  induction pieces generalizing s with
  | nil =>
    have hnil : s.share [] = [] :=
      List.eq_nil_of_length_eq_zero (Nat.le_zero.1 (length_share_le s []))
    rw [offerAll, List.flatten_nil, offer, accept_of_share_eq_nil hnil, hnil,
      if_pos (Nat.le_refl _)]
  | cons piece pieces ih =>
    rw [offerAll, List.flatten_cons, ← offer_append]
    congr 1
    funext s
    exact ih s

/-! ## Sinks with a limit -/

/-- A sink that has been given so many bytes, of which it has taken the first `n`. -/
def filled (n : Nat) (reason : String) (sent : List UInt8) : Sink := ⟨some n, reason, sent.take n⟩

theorem ofCapacity_eq_filled (n : Nat) (reason : String) :
    ofCapacity n reason = filled n reason [] := by
  rw [filled, List.take_nil]
  rfl

/-- A full sink does not change. -/
theorem filled_append (h : n ≤ sent.length) (more : List UInt8) :
    filled n reason (sent ++ more) = filled n reason sent := by
  rw [filled, filled, List.take_append_of_le_length h]

/-- A sink that has taken everything so far goes on taking the first `n` bytes. -/
theorem write_filled (h : sent.length ≤ n) (text : String) (failure : Error) :
    (filled n reason sent).write text failure =
      (filled n reason (sent ++ utf8Bytes text),
        if sent.length + (utf8Bytes text).length ≤ n then .ok () else .error failure) := by
  have hshare : (filled n reason sent).share (utf8Bytes text) =
      (utf8Bytes text).take (n - sent.length) := by
    rw [share_of_capacity rfl, filled, List.take_of_length_le h]
  have haccept : (filled n reason sent).accept (utf8Bytes text) =
      filled n reason (sent ++ utf8Bytes text) := by
    rw [accept, hshare]
    simp [filled, List.take_append]
  have hlength : (utf8Bytes text).length ≤ ((utf8Bytes text).take (n - sent.length)).length ↔
      sent.length + (utf8Bytes text).length ≤ n := by
    rw [List.length_take]
    omega
  rw [write_eq_offer, offer, haccept, hshare]
  simp only [hlength]

end Sink

/-! ## Scripts -/

namespace HintDocument

open Sink (andThen filled)

variable {h : HintDocument} {o : ScriptOptions} {n : Nat} {reason : String}

/-- How many bytes come before the JSON value. -/
def headSize (o : ScriptOptions) : Nat := (utf8Bytes ("var " ++ o.variableName ++ " = ")).length

/-- How many bytes the JSON value has. -/
def jsonSize (h : HintDocument) (o : ScriptOptions) : Nat :=
  (utf8Bytes (h.toJson.text o.layout)).length

/-- How many bytes the script has, with the semicolon at its end. -/
def scriptSize (h : HintDocument) (o : ScriptOptions) : Nat := headSize o + h.jsonSize o + 1

theorem utf8Bytes_script (h : HintDocument) (o : ScriptOptions) :
    utf8Bytes (h.script o) =
      utf8Bytes o.head ++ utf8Bytes (h.jsonText o) ++ utf8Bytes scriptEnd := by
  rw [script, utf8Bytes_append, utf8Bytes_append]

theorem length_script (h : HintDocument) (o : ScriptOptions) :
    (utf8Bytes (h.script o)).length = h.scriptSize o := by
  rw [utf8Bytes_script, List.length_append, List.length_append]
  rfl

/-- How writing to a sink ends that takes `n` bytes. -/
def outcomeAt (h : HintDocument) (o : ScriptOptions) (n : Nat) (reason : String) :
    Except Error Unit :=
  if n < headSize o then .error (.io reason)
  else if n < headSize o + h.jsonSize o then .error (.json .writing)
  else if n < h.scriptSize o then .error (.io reason)
  else .ok ()

/-- The sink takes the first bytes of the script, in whatever part of it they end. -/
theorem writeScript_ofCapacity (h : HintDocument) (o : ScriptOptions) (n : Nat) (reason : String) :
    h.writeScript o (.ofCapacity n reason) =
      (filled n reason (utf8Bytes (h.script o)), h.outcomeAt o n reason) := by
  have hheadSize : (utf8Bytes o.head).length = headSize o := rfl
  have hjsonSize : (utf8Bytes (h.jsonText o)).length = h.jsonSize o := rfl
  have hendSize : (utf8Bytes scriptEnd).length = 1 := rfl
  have hscriptSize : h.scriptSize o = headSize o + h.jsonSize o + 1 := rfl
  have hreason : (Sink.ofCapacity n reason).reason = reason := rfl
  unfold writeScript outcomeAt
  rw [hreason, Sink.ofCapacity_eq_filled, Sink.write_filled (Nat.zero_le n), List.nil_append,
    List.length_nil, Nat.zero_add, utf8Bytes_script]
  by_cases hhead : n < headSize o
  · -- the sink closes in the head
    have hfull : n ≤ (utf8Bytes o.head).length := by omega
    rw [if_neg (by omega), Sink.andThen_error, if_pos hhead, List.append_assoc,
      Sink.filled_append hfull]
  · rw [if_pos (by omega), Sink.andThen_ok, Sink.write_filled (by omega), if_neg hhead]
    by_cases hjson : n < headSize o + h.jsonSize o
    · -- the sink closes in the JSON value
      have hfull : n ≤ (utf8Bytes o.head ++ utf8Bytes (h.jsonText o)).length := by
        rw [List.length_append]
        omega
      rw [if_neg (by omega), Sink.andThen_error, if_pos hjson, Sink.filled_append hfull]
    · -- only the semicolon is left
      have hopen : (utf8Bytes o.head ++ utf8Bytes (h.jsonText o)).length ≤ n := by
        rw [List.length_append]
        omega
      rw [if_pos (by omega), Sink.andThen_ok, Sink.write_filled hopen, List.length_append,
        if_neg hjson]
      by_cases hend : n < h.scriptSize o
      · rw [if_neg (by omega), if_pos hend]
      · rw [if_pos (by omega), if_neg hend]

theorem outcomeAt_eq_ok_iff :
    h.outcomeAt o n reason = .ok () ↔ h.scriptSize o ≤ n := by
  grind [outcomeAt, scriptSize]

theorem outcomeAt_eq_io_iff :
    h.outcomeAt o n reason = .error (.io reason) ↔ n < headSize o ∨ n = h.scriptSize o - 1 := by
  grind [outcomeAt, scriptSize]

theorem outcomeAt_eq_json_iff :
    h.outcomeAt o n reason = .error (.json .writing) ↔
      headSize o ≤ n ∧ n < h.scriptSize o - 1 := by
  grind [outcomeAt, scriptSize]

/-- Write a script in pieces, however its head and its JSON value are cut. -/
def writeInPieces (head json : List (List UInt8)) (sink : Sink) : Sink × Except Error Unit :=
  andThen (Sink.offerAll (.io sink.reason) head sink) fun s =>
    andThen (Sink.offerAll (.json .writing) json s) fun s =>
      s.write scriptEnd (.io sink.reason)

theorem writeInPieces_eq {head json : List (List UInt8)}
    (hhead : head.flatten = utf8Bytes o.head) (hjson : json.flatten = utf8Bytes (h.jsonText o))
    (sink : Sink) : writeInPieces head json sink = h.writeScript o sink := by
  unfold writeInPieces writeScript
  simp only [Sink.offerAll_eq, hhead, hjson, Sink.write_eq_offer]

/-- A script is written to a sink that takes `n` bytes. It takes the first bytes of the script that
comes of writing without a limit. All goes well exactly if that is the whole script. Otherwise the
sink closes in the head or before the semicolon, and then the error is the sink's own, or it closes
in the JSON value, and then the error is one of writing JSON. None of this depends on the pieces in
which the head and the JSON value are written. -/
theorem writeScript_until_closed (h : HintDocument) (o : ScriptOptions) (n : Nat)
    (reason : String) :
    ∃ script, h.encode o = .ok script ∧ (utf8Bytes script).length = h.scriptSize o ∧
      (h.writeScript o (.ofCapacity n reason)).1.accepted =
        (utf8Bytes script).take (min n (h.scriptSize o)) ∧
      ((h.writeScript o (.ofCapacity n reason)).2 = .ok () ↔ h.scriptSize o ≤ n) ∧
      ((h.writeScript o (.ofCapacity n reason)).2 = .error (.io reason) ↔
        n < headSize o ∨ n = h.scriptSize o - 1) ∧
      ((h.writeScript o (.ofCapacity n reason)).2 = .error (.json .writing) ↔
        headSize o ≤ n ∧ n < h.scriptSize o - 1) ∧
      ∀ head json : List (List UInt8), head.flatten = utf8Bytes o.head →
        json.flatten = utf8Bytes (h.jsonText o) →
          writeInPieces head json (.ofCapacity n reason) =
            h.writeScript o (.ofCapacity n reason) := by
  rw [writeScript_ofCapacity]
  refine ⟨h.script o, h.encode_eq o, h.length_script o, ?_, outcomeAt_eq_ok_iff,
    outcomeAt_eq_io_iff, outcomeAt_eq_json_iff, ?_⟩
  · show (utf8Bytes (h.script o)).take n = _
    rw [← length_script, List.take_eq_take_min]
  · intro head json hhead hjson
    rw [writeInPieces_eq hhead hjson, writeScript_ofCapacity]

/-! ### A sink that closes within a character

The script of a document with one tag has 39 bytes, and the letter of the tag takes the 22nd and the
23rd of them. -/

/-- A document with the tag `é` at the top. -/
def accented : HintDocument := .ofRoot "é" .empty

theorem writeScript_until_closed_accented :
    (accented.writeScript {} (.ofCapacity 22 "closed")).1.accepted =
        utf8Bytes "var tags = \x7b\"!top\":[\"" ++ [0xC3] ∧
      (accented.writeScript {} (.ofCapacity 22 "closed")).2 = .error (.json .writing) ∧
      (accented.writeScript {} (.ofCapacity 38 "closed")).2 = .error (.io "closed") ∧
      (accented.writeScript {} (.ofCapacity 39 "closed")).2 = .ok () ∧
      writeInPieces [utf8Bytes "var ", utf8Bytes "tags", utf8Bytes " = "]
          ((utf8Bytes (accented.jsonText {})).map ([·])) (.ofCapacity 22 "closed") =
        accented.writeScript {} (.ofCapacity 22 "closed") := by
  have hhead : headSize {} = 11 := by decide +kernel
  have hsize : accented.scriptSize {} = 39 := by decide +kernel
  obtain ⟨script, hscript, _, hbytes, _, _, hjson, hpieces⟩ :=
    accented.writeScript_until_closed {} 22 "closed"
  obtain ⟨_, _, _, _, _, hio, _⟩ := accented.writeScript_until_closed {} 38 "closed"
  obtain ⟨_, _, _, _, hok, _⟩ := accented.writeScript_until_closed {} 39 "closed"
  rw [hsize] at hbytes hjson hio hok
  rw [hhead] at hjson
  have htext : script = accented.script {} :=
    Except.ok.inj (hscript.symm.trans (accented.encode_eq {}))
  refine ⟨?_, hjson.2 (by decide), hio.2 (.inr rfl), hok.2 (by decide), hpieces _ _ ?_ ?_⟩
  · rw [hbytes, htext]
    decide +kernel
  · decide +kernel
  · decide +kernel

end HintDocument

end TagGrammar
