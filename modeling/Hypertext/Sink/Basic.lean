import Hypertext.Attempt
import Hypertext.Text.Utf8

/-!
# Sinks

A sink takes text at its end. `append` is all that a kind of sink has to say; by default a single
character is appended as a text of one character, flushing succeeds and the contents are not kept.

* `IoError` is what a sink fails with.
* A `String` is the sink that keeps everything and never fails.
-/

namespace Hypertext

/-- The class of an input/output failure. -/
inductive IoError.Kind where
  | brokenPipe
  | writeZero
  | invalidData
  /-- The call was broken off before it had done anything. -/
  | interrupted
  | other
deriving DecidableEq, Repr, Inhabited

/-- An input/output failure. -/
structure IoError where
  kind : IoError.Kind
  message : String
deriving DecidableEq, Repr, Inhabited

/-- The failure of a writer that takes no more bytes. -/
def IoError.writeZero : IoError := ⟨.writeZero, "failed to write whole buffer"⟩

/-- A destination for text. -/
class Sink (σ : Type) where
  /-- Takes the text verbatim, or fails. -/
  append : String → Attempt IoError σ
  /-- Takes one character verbatim, or fails. -/
  appendChar : Char → Attempt IoError σ := fun c => append (String.singleton c)
  /-- Passes on what is held back, or fails. -/
  flush : Attempt IoError σ := Attempt.succeed
  /-- Everything taken so far, if the sink keeps it. -/
  written : σ → Option String := fun _ => none
  /-- The bytes that have arrived at the destination so far. -/
  received : σ → List UInt8

instance : Sink String where
  append text := fun s => (s ++ text, .ok ())
  appendChar c := fun s => (s.push c, .ok ())
  written s := some s
  received s := Text.utf8 s

end Hypertext
