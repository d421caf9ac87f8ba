import Hypertext.Context.Bindings
import Hypertext.Context.SerializationError

/-!
# Readings

A `Reading` is one question put to a store of bindings, an `Answer` what comes back. `perform` puts
the question; the record of warnings may grow by it.
-/

namespace Hypertext

/-- A question to a store of bindings. -/
inductive Reading where
  | value (key : String)
  | contains (key : String)
  | getString (key : String)
  | getStringOr (key fallback : String)
  | getLong (key : String)
  | getLongOr (key : String) (fallback : Int64)
  | getInt (key : String)
  | getIntOr (key : String) (fallback : Int32)
  | getFloat (key : String)
  | getFloatOr (key : String) (fallback : Binary64)
  | getBool (key : String)
  | getBoolOr (key : String) (fallback : Bool)
  | getMap (key : String)
  /-- The same question to the dictionary under a key. -/
  | nested (key : String) (reading : Reading)
  | getAs (shape : Shape) (key : String)
  | hasWarned (component message : String)
deriving Repr

/-- An answer about bindings. -/
inductive Answer where
  /-- The step is done and says nothing. -/
  | done
  /-- A value could not be serialized. -/
  | unserializable (cause : SerializationError)
  | absent
  | json (value : Json)
  | text (s : String)
  | bool (b : Bool)
  | long (n : Int64)
  | int (n : Int32)
  | float (x : Binary64)
  /-- There is no dictionary under the key. -/
  | noMap
  | shaped (shape : Shape) (value : Option shape.Value)

namespace Answer

/-- The answer for something that may be missing. -/
def ofOption {α : Type} (answer : α → Answer) : Option α → Answer
  | some a => answer a
  | none => .absent

end Answer

namespace Reading

/-- Puts the question to a store. -/
def perform {β : Type} [Bindings β] (store : β) (w : Warnings) : Reading → Answer × Warnings
  | .value key => (.ofOption .json (Bindings.value? store key), w)
  | .contains key => (.bool (Bindings.contains store key), w)
  | .getString key => (.ofOption .text (Bindings.getString store key), w)
  | .getStringOr key fallback => (.text ((Bindings.getString store key).getD fallback), w)
  | .getLong key =>
    match Bindings.getLong store key w with
    | (n, w) => (.ofOption .long n, w)
  | .getLongOr key fallback =>
    match Bindings.getLong store key w with
    | (n, w) => (.long (n.getD fallback), w)
  | .getInt key =>
    match Bindings.getInt store key w with
    | (n, w) => (.ofOption .int n, w)
  | .getIntOr key fallback =>
    match Bindings.getInt store key w with
    | (n, w) => (.int (n.getD fallback), w)
  | .getFloat key =>
    match Bindings.getFloat store key w with
    | (x, w) => (.ofOption .float x, w)
  | .getFloatOr key fallback =>
    match Bindings.getFloat store key w with
    | (x, w) => (.float (x.getD fallback), w)
  | .getBool key =>
    match Bindings.getBool store key w with
    | (b, w) => (.ofOption .bool b, w)
  | .getBoolOr key fallback =>
    match Bindings.getBool store key w with
    | (b, w) => (.bool (b.getD fallback), w)
  | .getMap key => (.ofOption .json ((Bindings.getMap store key).map .obj), w)
  | .nested key reading =>
    match Bindings.getMap store key with
    | some fields => reading.perform fields w
    | none => (.noMap, w)
  | .getAs shape key => (.shaped shape (Bindings.getAs shape store key), w)
  | .hasWarned component message => (.bool (w.has component message), w)

end Reading

end Hypertext
