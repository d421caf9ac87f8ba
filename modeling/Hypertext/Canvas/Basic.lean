import Hypertext.Canvas.Config
import Hypertext.Context.Scope
import Hypertext.Html.Attribute
import Hypertext.Html.Element

/-!
# Canvases

A `Canvas` writes markup to a sink and keeps the end tags of the elements that are still open, the
scope of bindings, the number of identifiers issued, its settings and the record of warnings.

* `openTag` and `voidTag` write the name and the attributes of a tag in one piece, so a tag whose
  attributes fail leaves nothing in the sink.
* `closeTag` takes the innermost end tag and writes it; `closeExpecting` first compares it.
* `text` writes under a policy, `char` and `rawBlock` write verbatim.
-/

namespace Hypertext

/-- A writer of markup on a sink. -/
structure Canvas (σ : Type) where
  sink : σ
  /-- The end tags of the elements that are open, innermost first. -/
  openTags : List String := []
  /-- The bindings. -/
  context : Scope := {}
  /-- The number of the last identifier issued. -/
  lastId : UInt64 := 0
  config : Config := {}
  /-- The record of warnings, which all canvases share. -/
  warnings : Warnings := {}

namespace Canvas

variable {σ : Type} [Sink σ]

/-- A canvas on a sink, with settings. -/
def ofSink (sink : σ) (config : Config) (warnings : Warnings) : Canvas σ :=
  { sink, config, warnings }

/-- Everything written so far, if the sink keeps it. -/
def output (c : Canvas σ) : Option String :=
  Sink.written c.sink

/-- The number of open elements. -/
def depth {σ : Type} (c : Canvas σ) : Nat :=
  c.openTags.length

/-- Whether every element has been closed. -/
def isBalanced {σ : Type} (c : Canvas σ) : Bool :=
  c.openTags.isEmpty

/-- Performs a step of the sink. -/
def onSink {σ : Type} (step : Attempt CanvasError σ) : Attempt CanvasError (Canvas σ) := fun c =>
  match step c.sink with
  | (sink, r) => ({ c with sink }, r)

/-- Appends a text verbatim. -/
def append (text : String) : Attempt CanvasError (Canvas σ) :=
  onSink ((Sink.append text).mapError .io)

/-- Appends a character verbatim. -/
def char (ch : Char) : Attempt CanvasError (Canvas σ) :=
  onSink ((Sink.appendChar ch).mapError .io)

/-- Flushes the sink. -/
def flush : Attempt CanvasError (Canvas σ) :=
  onSink ((Sink.flush).mapError .io)

/-- Puts an end tag on the stack. -/
def push {σ : Type} (endTag : String) : Attempt CanvasError (Canvas σ) := fun c =>
  ({ c with openTags := endTag :: c.openTags }, .ok ())

/-- The component that reports obsolete elements. -/
def component : String := "Canvas"

/-- The report of an obsolete element, in the spelling with which it was opened. -/
def obsolete (name : String) : String :=
  "<" ++ name ++ "> is an obsolete element"

/-- Warns of the element if it is obsolete and the settings say so. -/
def warnOfObsolete {σ : Type} (name : String) (c : Canvas σ) : Canvas σ :=
  if c.config.warnsOfObsolete && (Element.ofName? name).any Element.isObsolete then
    { c with warnings := c.warnings.warn component (obsolete name) }
  else c

/-- The beginning of a tag up to its last attribute, put together apart from the sink. -/
def stage (handler : Option EscapeHandler) (name : String) (attributes : Option Carrier) :
    Except CanvasError String :=
  match attributes with
  | none => .ok ("<" ++ name)
  | some carrier =>
    match (carrier.emission handler).run ("<" ++ name) with
    | (markup, .ok ()) => .ok markup
    | (_, .error e) => .error e

/-- Writes the beginning of a tag. -/
def writeStart (name : String) (attributes : Option Carrier) : Attempt CanvasError (Canvas σ) :=
  fun c =>
    if name = "" then (c, .error .nullTag)
    else
      let c := c.warnOfObsolete name
      match stage c.config.handler name attributes with
      | .ok markup => append markup c
      | .error e => (c, .error e)

/-- Writes a start tag and puts its end tag on the stack. -/
def openTag (name : String) (attributes : Option Carrier) : Attempt CanvasError (Canvas σ) :=
  (writeStart name attributes).andThen ((char '>').andThen (push ("</" ++ name ++ ">")))

/-- Writes a tag that needs no end. -/
def voidTag (name : String) (attributes : Option Carrier) : Attempt CanvasError (Canvas σ) :=
  (writeStart name attributes).andThen (append "/>")

/-- Takes the innermost end tag from the stack and writes it. -/
def closeTag : Attempt CanvasError (Canvas σ) := fun c =>
  match c.openTags with
  | [] => (c, .error .emptyStack)
  | endTag :: openTags => append endTag { c with openTags }

/-- Closes the innermost element if its end tag is the expected one. -/
def closeExpecting (expected : String) : Attempt CanvasError (Canvas σ) := fun c =>
  match c.openTags with
  | [] => (c, .error .emptyStack)
  | found :: _ =>
    if found = expected then closeTag c else (c, .error (.unexpectedTag expected found))

/-- Writes a text under a policy; a missing text is nothing to write. -/
def text (text : Option String) (policy : EscapePolicy) : Attempt CanvasError (Canvas σ) := fun c =>
  match text with
  | none => (c, .ok ())
  | some text => onSink (emissionUnder c.config.handler text policy).run c

/-- Writes an opening and a content verbatim and puts the closing on the stack. -/
def rawBlock (opening content closing : String) : Attempt CanvasError (Canvas σ) :=
  (append opening).andThen ((append content).andThen (push closing))

/-- A fresh identifier. Behind the largest number of 64 bits comes zero. -/
def nextId {σ : Type} (c : Canvas σ) : String × Canvas σ :=
  (c.config.idStart ++ Text.decimalNat (c.lastId + 1).toNat, { c with lastId := c.lastId + 1 })

/-- The canvas inside a new frame of bindings. -/
def enterFrame {σ : Type} (c : Canvas σ) : Canvas σ :=
  { c with context := c.context.push }

/-- The canvas without the innermost frame of bindings. -/
def leaveFrame {σ : Type} (c : Canvas σ) : Canvas σ :=
  { c with context := c.context.pop.2 }

/-- An empty canvas for a fragment: settings, bindings and warnings are those of this one. -/
def fragment {σ : Type} (c : Canvas σ) : Canvas String :=
  { sink := "", context := c.context, config := c.config, warnings := c.warnings }

end Canvas

end Hypertext
