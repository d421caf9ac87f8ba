import Hypertext.Context.Conversion

/-!
# Shapes

A `Shape` is a type of values that can be stored as JSON and read back.

* `encode` stores a value of a shape.
* `decode` reads a value of exactly that shape: an integer is no float literal and no text, a
  missing text is `null`.
-/

namespace Hypertext

/-- A type that values are read as. -/
inductive Shape where
  | int64
  | uint32
  | float
  | string
  | bool
  | optionalString
  | int64s
  | strings
  | dict
deriving DecidableEq, Repr

namespace Shape

/-- The values of a shape. -/
abbrev Value : Shape → Type
  | .int64 => Int64
  | .uint32 => UInt32
  | .float => Binary64
  | .string => String
  | .bool => Bool
  | .optionalString => Option String
  | .int64s => List Int64
  | .strings => List String
  | .dict => Dict Json

/-- The value of a shape that JSON holds, and nothing if it is of another shape. -/
def decode : (shape : Shape) → Json → Option shape.Value
  | .int64, v => v.integer?.bind int64?
  | .uint32, v => v.integer?.bind uint32?
  | .float, .num n => some n.toBinary64
  | .string, v => v.string?
  | .bool, .bool b => some b
  | .optionalString, .null => some none
  | .optionalString, .str s => some (some s)
  | .int64s, .arr items => items.mapM fun v => v.integer?.bind int64?
  | .strings, .arr items => items.mapM Json.string?
  | .dict, .obj fields => some fields
  | _, _ => none

/-- The JSON that holds a value of a shape. A double that is not finite is held as `null`. -/
def encode : (shape : Shape) → shape.Value → Json
  | .int64, n => .ofInt64 n
  | .uint32, n => .ofUInt32 n
  | .float, x => ((Number.ofBinary64? x).map .num).getD .null
  | .string, s => .str s
  | .bool, b => .bool b
  | .optionalString, none => .null
  | .optionalString, some s => .str s
  | .int64s, ns => .arr (ns.map .ofInt64)
  | .strings, ss => .arr (ss.map .str)
  | .dict, fields => .obj fields

end Shape

end Hypertext
