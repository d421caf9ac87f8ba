import Hypertext.Proofs.Canvas.Surroundings
import Hypertext.Proofs.Markup.Escaped

/-!
# What is emitted on a text

On a `String` emissions append one text after the other, and none of them fails. With the handler
`EscapeHandler.html` an attribute list appends `Attributes.markup`, whatever the names and values are.

* `Emission.Emits`: an emission appends this text. It composes along `Emission.andThen`.
* `EscapeHandler.emits_html`: the handler appends the escaped text.
* `Attributes.emits_markup`, `Canvas.stage_markup`: attribute lists and beginnings of tags.
-/

namespace Hypertext

namespace Emission

variable {ε ε' : Type}

/-- The emission appends this text to what has been written, and succeeds. -/
def Emits (e : Emission ε) (text : String) : Prop :=
  ∀ written : String, e.run written = (written ++ text, .ok ())

theorem emits_nothing : (nothing : Emission ε).Emits "" := by
  intro written
  rw [String.append_empty]
  rfl

theorem emits_put (wrap : IoError → ε) (text : String) : (put wrap text).Emits text := fun _ => rfl

theorem emits_putChar (wrap : IoError → ε) (c : Char) : (putChar wrap c).Emits (String.singleton c) := by
  intro written
  rw [String.append_singleton]
  rfl

theorem Emits.andThen {first second : Emission ε} {text text' : String} (h : first.Emits text)
    (h' : second.Emits text') : (first.andThen second).Emits (text ++ text') := by
  intro written
  rw [run_andThen, Attempt.andThen, h written, ← String.append_assoc]
  exact h' _

theorem Emits.mapError {e : Emission ε} {text : String} (h : e.Emits text) (f : ε → ε') :
    (e.mapError f).Emits text := by
  intro written
  rw [run_mapError, Attempt.mapError, h written]
  rfl

theorem emits_ofPieces (wrap : IoError → ε) (runs : List (List Char)) :
    (ofPieces wrap (runs.map String.ofList)).Emits (String.ofList runs.flatten) := by
  induction runs with
  | nil => exact emits_nothing
  | cons run runs ih =>
    rw [List.flatten_cons, String.ofList_append]
    exact (emits_put wrap _).andThen ih

end Emission

theorem EscapeHandler.emits_html (text : String) : (html text).Emits (escapeHtml text) :=
  Emission.emits_ofPieces id (pieceChars text.toList)

/-- A text as it is written under a policy. -/
def EscapePolicy.written (text : String) : EscapePolicy → String
  | .escapeChars => escapeHtml text
  | .noEscape => text

theorem emits_written (text : String) (policy : EscapePolicy) :
    (emissionUnder (some EscapeHandler.html) text policy).Emits (policy.written text) := by
  cases policy with
  | escapeChars => exact (EscapeHandler.emits_html text).mapError CanvasError.io
  | noEscape => exact Emission.emits_put .io text

/-- An attribute as it is written. -/
def Attribute.markup (a : Attribute) : String :=
  " " ++ (a.name ++ ("=\"" ++ (a.policy.written a.value ++ "\"")))

theorem Attribute.emits_markup (a : Attribute) : (a.emission (some EscapeHandler.html)).Emits a.markup :=
  (Emission.emits_putChar .io ' ').andThen <|
    (Emission.emits_put .io a.name).andThen <|
      (Emission.emits_put .io "=\"").andThen <|
        (emits_written a.value a.policy).andThen (Emission.emits_putChar .io '"')

namespace Attributes

/-- Attributes as they are written. -/
def markup : Attributes → String
  | [] => ""
  | a :: rest => a.markup ++ markup rest

theorem emits_markup (list : Attributes) : (list.emission (some EscapeHandler.html)).Emits list.markup := by
  induction list with
  | nil => exact Emission.emits_nothing
  | cons a rest ih => exact a.emits_markup.andThen ih

end Attributes

/-- The attributes of a tag that has none or a list of them. -/
inductive Carrier.Lists : Option Carrier → Attributes → Prop where
  | none : Lists .none []
  | attributes (list : Attributes) : Lists (some (.attributes list)) list

namespace Canvas

/-- The beginning of a tag with its attributes. -/
theorem stage_markup (name : String) {attributes : Option Carrier} {list : Attributes}
    (h : Carrier.Lists attributes list) :
    stage (some EscapeHandler.html) name attributes = .ok ("<" ++ name ++ list.markup) := by
  cases h with
  | none =>
    unfold stage Attributes.markup
    rw [String.append_empty]
  | attributes =>
    have hrun : (Carrier.emission (some EscapeHandler.html) (.attributes list)).run ("<" ++ name) =
      ("<" ++ name ++ list.markup, .ok ()) := list.emits_markup _
    unfold stage
    dsimp only
    rw [hrun]

/-- On this canvas the step succeeds, appends a text and leaves these end tags of open elements. -/
structure Adds (c : Canvas String) (step : Attempt CanvasError (Canvas String)) (markup : String)
    (openTags : List String) : Prop where
  result : (step c).2 = .ok ()
  sink : (step c).1.sink = c.sink ++ markup
  openTags : (step c).1.openTags = openTags

variable {c : Canvas String}

theorem Adds.andThen {first second : Attempt CanvasError (Canvas String)} {text text' : String}
    {openTags openTags' : List String} (h : c.Adds first text openTags)
    (h' : (first c).1.Adds second text' openTags') :
    c.Adds (first.andThen second) (text ++ text') openTags' := by
  have hstep : first.andThen second c = second (first c).1 := by
    have hfirst : first c = ((first c).1, .ok ()) := Prod.ext rfl h.result
    unfold Attempt.andThen
    rw [hfirst]
  constructor
  · rw [hstep]
    exact h'.result
  · rw [hstep, h'.sink, h.sink, String.append_assoc]
  · rw [hstep]
    exact h'.openTags

/-- A step that amounts to appending a text, once something else than the sink has changed. -/
theorem Adds.of_append {step : Attempt CanvasError (Canvas String)} {text : String} {d : Canvas String}
    (hstep : step c = append text d) (hsink : d.sink = c.sink) : c.Adds step text d.openTags := by
  constructor <;> rw [hstep]
  · rfl
  · rw [← hsink]
    rfl
  · rfl

theorem adds_append (c : Canvas String) (text : String) : c.Adds (append text) text c.openTags :=
  .of_append rfl rfl

theorem adds_char (c : Canvas String) (ch : Char) :
    c.Adds (char ch) (String.singleton ch) c.openTags :=
  ⟨rfl, String.append_singleton.symm, rfl⟩

theorem adds_push (c : Canvas String) (endTag : String) : c.Adds (push endTag) "" (endTag :: c.openTags) :=
  ⟨rfl, String.append_empty.symm, rfl⟩

theorem Adds.congr {step step' : Attempt CanvasError (Canvas String)} {text : String}
    {openTags : List String} (h : c.Adds step text openTags) (hsame : step' c = step c) :
    c.Adds step' text openTags := by
  constructor <;> rw [hsame]
  · exact h.result
  · exact h.sink
  · exact h.openTags

theorem adds_closeTag {endTag : String} {openTags : List String} (h : c.openTags = endTag :: openTags) :
    c.Adds closeTag endTag openTags := by
  have hstep : closeTag c = append endTag { c with openTags } := by
    unfold closeTag
    rw [h]
  exact .of_append hstep rfl

theorem adds_writeStart (hhandler : c.config.handler = some EscapeHandler.html) {name : String}
    (hname : name ≠ "") {attributes : Option Carrier} {list : Attributes}
    (hlist : Carrier.Lists attributes list) :
    c.Adds (writeStart name attributes) ("<" ++ name ++ list.markup) c.openTags := by
  -- an obsolete element is warned of first, which the sink and the open elements do not see
  obtain ⟨warnings, hwarned⟩ := c.warnOfObsolete_eq name
  have hstep : writeStart name attributes c =
      append ("<" ++ name ++ list.markup) { c with warnings } := by
    unfold writeStart
    rw [if_neg hname, hwarned]
    dsimp only
    rw [hhandler, stage_markup name hlist]
  exact .of_append (d := { c with warnings }) hstep rfl

theorem adds_openTag (hhandler : c.config.handler = some EscapeHandler.html) {name : String}
    (hname : name ≠ "") {attributes : Option Carrier} {list : Attributes}
    (hlist : Carrier.Lists attributes list) :
    c.Adds (openTag name attributes) ("<" ++ name ++ list.markup ++ ">")
      (("</" ++ name ++ ">") :: c.openTags) := by
  have hstart := adds_writeStart hhandler hname hlist
  have hend := (adds_char (writeStart name attributes c).1 '>').andThen
    (adds_push _ ("</" ++ name ++ ">"))
  have htag := hstart.andThen hend
  rw [String.append_empty, (adds_char _ '>').openTags, hstart.openTags] at htag
  exact htag

theorem adds_voidTag (hhandler : c.config.handler = some EscapeHandler.html) {name : String}
    (hname : name ≠ "") {attributes : Option Carrier} {list : Attributes}
    (hlist : Carrier.Lists attributes list) :
    c.Adds (voidTag name attributes) ("<" ++ name ++ list.markup ++ "/>") c.openTags := by
  have hstart := adds_writeStart hhandler hname hlist
  have htag := hstart.andThen (adds_append _ "/>")
  rw [hstart.openTags] at htag
  exact htag

theorem adds_text (hhandler : c.config.handler = some EscapeHandler.html) (t : String)
    (policy : EscapePolicy) : c.Adds (text (some t) policy) (policy.written t) c.openTags := by
  have hrun := emits_written t policy c.sink
  have hstep : text (some t) policy c = ({ c with sink := c.sink ++ policy.written t }, .ok ()) := by
    unfold text onSink
    dsimp only
    rw [hhandler, hrun]
  constructor <;> rw [hstep]

end Canvas

end Hypertext
