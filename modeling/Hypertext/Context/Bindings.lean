import Hypertext.Context.Shape
import Hypertext.Warning

/-!
# Bindings

`Bindings` are stores that look values up by key. On top of `value?` they give typed access:

* `getString`, `getMap` and `getAs` answer nothing for a value of another kind.
* `getLong`, `getInt`, `getFloat` and `getBool` convert texts, and a value that cannot be converted
  is reported once as a warning.
-/

namespace Hypertext

/-- A store of values under text keys. -/
class Bindings (β : Type) where
  /-- The value bound to the key. -/
  value? : β → String → Option Json

instance : Bindings (Dict Json) where
  value? d key := d.get? key

namespace Bindings

variable {β : Type} [Bindings β]

/-- Whether the key is bound. -/
def contains (store : β) (key : String) : Bool :=
  (value? store key).isSome

/-- The value as a text. -/
def getString (store : β) (key : String) : Option String :=
  (value? store key).bind Json.toText?

/-- The component that reports values which cannot be converted. -/
def component : String := "Context"

/-- The report of a value that is not what was wanted. -/
def unconvertible (key : String) (value : Json) (wanted : String) : String :=
  "value " ++ value.text ++ " for '" ++ key ++ "' is not " ++ wanted

/-- The value converted; if there is a value and it cannot be, that is reported. -/
def convert {α : Type} (read : Json → Option α) (wanted : String) (store : β) (key : String)
    (w : Warnings) : Option α × Warnings :=
  match value? store key with
  | none => (none, w)
  | some value =>
    match read value with
    | some a => (some a, w)
    | none => (none, w.warn component (unconvertible key value wanted))

/-- The value as a 64-bit integer. -/
def getLong (store : β) (key : String) (w : Warnings) : Option Int64 × Warnings :=
  convert Json.toInt64? "an integer" store key w

/-- The value as a 32-bit integer. An integer out of range counts as absent and is not reported. -/
def getInt (store : β) (key : String) (w : Warnings) : Option Int32 × Warnings :=
  match getLong store key w with
  | (n, w) => (n.bind fun n => int32? n.toInt, w)

/-- The value as a double. -/
def getFloat (store : β) (key : String) (w : Warnings) : Option Binary64 × Warnings :=
  convert Json.toBinary64? "a number" store key w

/-- The value as a truth value. -/
def getBool (store : β) (key : String) (w : Warnings) : Option Bool × Warnings :=
  convert Json.toBool? "a boolean" store key w

/-- The dictionary under the key. -/
def getMap (store : β) (key : String) : Option (Dict Json) :=
  (value? store key).bind Json.fields?

/-- The value as one of a shape. -/
def getAs (shape : Shape) (store : β) (key : String) : Option shape.Value :=
  (value? store key).bind shape.decode

end Bindings

end Hypertext
