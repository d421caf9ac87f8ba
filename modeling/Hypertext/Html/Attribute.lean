import Hypertext.Canvas.Error
import Hypertext.Html.AttributeName

/-!
# Attribute lists

`Attributes` are names with values in the order in which they were added, duplicates kept.

* `addWith_eq`, `add_eq`, `script_eq`, `attr_eq`, `raw_eq`, `flag_true`, `flag_false`: the attribute that each way of
  adding one puts at the end of the list.
* `emission` writes ` name="value"` for each, the value under its own policy.
* A `Carrier` is whatever writes the attributes of a tag: a list, a text taken verbatim, or an
  emission of one's own.
-/

namespace Hypertext

/-- One attribute. -/
structure Attribute where
  /-- The name as written. -/
  name : String
  /-- The value before escaping. -/
  value : String
  /-- Whether the value is escaped. -/
  policy : EscapePolicy
deriving DecidableEq, Repr

/-- The emission of a text under a policy. -/
def emissionUnder (handler : Option EscapeHandler) (text : String) :
    EscapePolicy → Emission CanvasError
  | .noEscape => Emission.put .io text
  | .escapeChars =>
    match handler with
    | some handler => (handler text).mapError .io
    | none => .done (.error .missingEscapeHandler)

/-- The emission of one attribute. -/
def Attribute.emission (handler : Option EscapeHandler) (a : Attribute) : Emission CanvasError :=
  (Emission.putChar .io ' ').andThen <|
    (Emission.put .io a.name).andThen <|
      (Emission.put .io "=\"").andThen <|
        (emissionUnder handler a.value a.policy).andThen (Emission.putChar .io '"')

/-- Attributes in the order in which they are written. -/
abbrev Attributes := List Attribute

namespace Attributes

/-- The list with an attribute at its end. -/
def push (attributes : Attributes) (name value : String) (policy : EscapePolicy) : Attributes :=
  attributes ++ [⟨name, value, policy⟩]

/-- Adds an attribute under a policy of one's own. -/
def addWith (attributes : Attributes) (a : AttributeName) (value : String)
    (policy : EscapePolicy) : Attributes :=
  attributes.push a.spelling value policy

/-- Adds an attribute under its own policy. -/
def add (attributes : Attributes) (a : AttributeName) (value : String) : Attributes :=
  attributes.addWith a value a.escaping

/-- Adds an event handler, which is written like any other attribute. -/
def script (attributes : Attributes) (a : AttributeName) (source : String) : Attributes :=
  attributes.add a source

/-- Adds an attribute of any name, escaped. -/
def attr (attributes : Attributes) (name value : String) : Attributes :=
  attributes.push name value .escapeChars

/-- Adds an attribute of any name, written as it is. -/
def raw (attributes : Attributes) (name value : String) : Attributes :=
  attributes.push name value .noEscape

/-- Adds a switch, whose value is its name, if it is on. -/
def flag (attributes : Attributes) (a : AttributeName) (on : Bool) : Attributes :=
  if on then attributes.add a a.spelling else attributes

section

variable (attributes : Attributes) (a : AttributeName) (name value : String)

@[simp] theorem addWith_eq (policy : EscapePolicy) :
    attributes.addWith a value policy = attributes ++ [⟨a.spelling, value, policy⟩] := rfl

@[simp] theorem add_eq : attributes.add a value = attributes ++ [⟨a.spelling, value, a.escaping⟩] := rfl

@[simp] theorem script_eq : attributes.script a value = attributes ++ [⟨a.spelling, value, a.escaping⟩] := rfl

@[simp] theorem attr_eq : attributes.attr name value = attributes ++ [⟨name, value, .escapeChars⟩] := rfl

@[simp] theorem raw_eq : attributes.raw name value = attributes ++ [⟨name, value, .noEscape⟩] := rfl

@[simp] theorem flag_true : attributes.flag a true = attributes ++ [⟨a.spelling, a.spelling, a.escaping⟩] := rfl

@[simp] theorem flag_false : attributes.flag a false = attributes := rfl

end

/-- The emission of the attributes in order. -/
def emission (handler : Option EscapeHandler) : Attributes → Emission CanvasError
  | [] => .nothing
  | a :: rest => (a.emission handler).andThen (emission handler rest)

end Attributes

/-- What writes the attributes of a tag. -/
inductive Carrier where
  /-- A text taken as it is. -/
  | verbatim (text : String)
  | attributes (list : Attributes)
  /-- An emission that may depend on the escape handler. -/
  | custom (emission : Option EscapeHandler → Emission CanvasError)

/-- The emission of a carrier. -/
def Carrier.emission (handler : Option EscapeHandler) : Carrier → Emission CanvasError
  | .verbatim text => Emission.put .io text
  | .attributes list => list.emission handler
  | .custom emission => emission handler

end Hypertext
