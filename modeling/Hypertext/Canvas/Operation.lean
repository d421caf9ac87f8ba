import Hypertext.Canvas.Basic

/-!
# Operations

An `Operation` is one of the seven ways of writing markup.

* `Canvas.perform` carries it out, `Canvas.performAll` a list of them until one fails.
* `Skipped.perform` counts what it would have opened and closed, and writes nothing.
* The lists `Markup.tag`, `Markup.element`, `Markup.comment` and so on write whole elements, comments
  and sections by these operations.
-/

namespace Hypertext

/-- A way of writing markup. -/
inductive Operation where
  | openTag (name : String) (attributes : Option Carrier)
  | voidTag (name : String) (attributes : Option Carrier)
  | closeTag
  | closeExpecting (expected : String)
  | text (text : Option String) (policy : EscapePolicy)
  | char (c : Char)
  | rawBlock (opening content closing : String)

namespace Canvas

variable {σ : Type} [Sink σ]

/-- Carries out an operation. -/
def perform : Operation → Attempt CanvasError (Canvas σ)
  | .openTag name attributes => openTag name attributes
  | .voidTag name attributes => voidTag name attributes
  | .closeTag => closeTag
  | .closeExpecting expected => closeExpecting expected
  | .text t policy => text t policy
  | .char c => char c
  | .rawBlock opening content closing => rawBlock opening content closing

/-- Carries out operations in order until one fails. -/
def performAll (operations : List Operation) : Attempt CanvasError (Canvas σ) :=
  Attempt.all (operations.map perform)

end Canvas

namespace Skipped

/-- One more element would be open, unless it has no name. -/
def opening (name : String) : Attempt CanvasError Nat := fun depth =>
  if name = "" then (depth, .error .nullTag) else (depth + 1, .ok ())

/-- One element less would be open. -/
def closing : Attempt CanvasError Nat
  | 0 => (0, .error .emptyStack)
  | depth + 1 => (depth, .ok ())

/-- The effect of an operation on the number of elements that would be open. -/
def perform : Operation → Attempt CanvasError Nat
  | .openTag name _ => opening name
  | .voidTag name _ => if name = "" then Attempt.fail .nullTag else Attempt.succeed
  | .closeTag => closing
  | .closeExpecting _ => closing
  | .text _ _ => Attempt.succeed
  | .char _ => Attempt.succeed
  | .rawBlock _ _ _ => fun depth => (depth + 1, .ok ())

/-- The effect of operations in order until one fails. -/
def performAll (operations : List Operation) : Attempt CanvasError Nat :=
  Attempt.all (operations.map perform)

end Skipped

namespace Markup

/-- Opens an element, or writes it whole if it is void. -/
def tagWith (e : Element) (attributes : Option Carrier) : List Operation :=
  if e.isVoid then [.voidTag e.name attributes] else [.openTag e.name attributes]

/-- Opens an element without attributes, or writes it whole if it is void. -/
def tag (e : Element) : List Operation :=
  tagWith e none

/-- Closes an element, which must be the innermost one. -/
def endTag (e : Element) : List Operation :=
  [.closeExpecting e.endTag]

/-- Writes a text escaped. -/
def text (t : Option String) : List Operation :=
  [.text t .escapeChars]

/-- Writes a text as it is. -/
def raw (t : Option String) : List Operation :=
  [.text t .noEscape]

/-- Writes an element around a text. -/
def element (e : Element) (t : Option String) : List Operation :=
  tag e ++ text t ++ endTag e

/-- Writes a comment around a text taken as it is. -/
def comment (t : String) : List Operation :=
  raw (some "<!--") ++ raw (some t) ++ raw (some "-->")

/-- Writes the document type. -/
def doctype : List Operation :=
  raw (some "<!DOCTYPE html>")

/-- Opens a section of character data with its content. -/
def cdata (content : String) : List Operation :=
  [.rawBlock "<![CDATA[" content "]]>"]

end Markup

end Hypertext
