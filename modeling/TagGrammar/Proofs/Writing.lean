import TagGrammar.Script

/-!
# Writing scripts

A script is written piece by piece: the head, the JSON value, the semicolon, and in a file a line
break behind them. What is written to a sink that never closes can be said without the pieces, for
each of them is appended to what came before (`writeScript_of_unlimited`). So the text that comes
out of the sink is the script, and nothing can go wrong on the way:

    encode_eq : h.encode o = .ok (h.script o)
    textOf_writeLine : Sink.textOf (h.writeLine o) = .ok (h.script o ++ "\n")
-/

namespace TagGrammar

/-! ## Texts as bytes -/

@[simp] theorem utf8Bytes_append (s t : String) :
    utf8Bytes (s ++ t) = utf8Bytes s ++ utf8Bytes t := by
  simp [utf8Bytes]

/-- A text is read back from its bytes. -/
theorem fromUTF8?_utf8Bytes (s : String) :
    String.fromUTF8? ⟨(utf8Bytes s).toArray⟩ = some s := by
  have hvalid : (ByteArray.mk (utf8Bytes s).toArray).IsValidUTF8 := s.isValidUTF8
  unfold String.fromUTF8?
  rw [dif_pos hvalid]
  rfl

/-! ## Sinks that never close -/

namespace Sink

variable {s : Sink}

/-- The sink with a text behind all that it has taken. -/
def push (s : Sink) (text : String) : Sink :=
  { s with accepted := s.accepted ++ utf8Bytes text }

@[simp] theorem capacity_push (s : Sink) (text : String) : (s.push text).capacity = s.capacity :=
  rfl

@[simp] theorem push_push (s : Sink) (first second : String) :
    (s.push first).push second = s.push (first ++ second) := by
  simp [push]

@[simp] theorem andThen_ok (s : Sink) (next : Sink → Sink × Except Error Unit) :
    andThen (s, .ok ()) next = next s := rfl

/-- A sink without a limit takes every text in full. -/
theorem write_of_unlimited (h : s.capacity = none) (text : String) (failure : Error) :
    s.write text failure = (s.push text, .ok ()) := by
  have hshare : ∀ bytes, s.share bytes = bytes := by
    intro bytes
    rw [share, h]
  unfold write accept
  simp [hshare, push]

theorem text_push_unlimited (text : String) : (unlimited.push text).text = .ok text := by
  have hbytes : (unlimited.push text).accepted = utf8Bytes text := by
    simp [push, unlimited]
  rw [Sink.text, hbytes, fromUTF8?_utf8Bytes]

/-- What is written to the sink is the text that comes out of it. -/
theorem textOf_eq_of_push {write : Sink → Sink × Except Error Unit} {text : String}
    (h : write unlimited = (unlimited.push text, .ok ())) : textOf write = .ok text := by
  rw [textOf, h]
  exact text_push_unlimited text

end Sink

/-! ## Scripts -/

namespace HintDocument

variable {s : Sink}

theorem writeScript_of_unlimited (hs : s.capacity = none) (h : HintDocument) (o : ScriptOptions) :
    h.writeScript o s = (s.push (h.script o), .ok ()) := by
  unfold writeScript
  rw [Sink.write_of_unlimited hs, Sink.andThen_ok, Sink.write_of_unlimited (by simpa using hs),
    Sink.andThen_ok, Sink.write_of_unlimited (by simpa using hs)]
  simp [script]

theorem writeLine_of_unlimited (hs : s.capacity = none) (h : HintDocument) (o : ScriptOptions) :
    h.writeLine o s = (s.push (h.script o ++ "\n"), .ok ()) := by
  unfold writeLine
  rw [writeScript_of_unlimited hs, Sink.andThen_ok, Sink.write_of_unlimited (by simpa using hs)]
  simp

/-- Writing a script gives the script. -/
theorem encode_eq (h : HintDocument) (o : ScriptOptions) : h.encode o = .ok (h.script o) :=
  Sink.textOf_eq_of_push (h.writeScript_of_unlimited rfl o)

/-- Writing a script into a file puts the script there, and a line break. -/
theorem textOf_writeLine (h : HintDocument) (o : ScriptOptions) :
    Sink.textOf (h.writeLine o) = .ok (h.script o ++ "\n") :=
  Sink.textOf_eq_of_push (h.writeLine_of_unlimited rfl o)

end HintDocument

end TagGrammar
