import Hypertext.Binary64.Basic
import Hypertext.Dict

/-!
# JSON values

`Json` is the type of untyped values: nothing, truth values, numbers, texts, sequences and
dictionaries. A number keeps whether it is an integer or a double, so `1` and `1.0` differ.

* `Integer64` and `Binary64.Finite` hold the integers and the doubles that a number can be, and no others.
-/

namespace Hypertext

/-- An integer that 64 bits hold, signed or unsigned. -/
structure Integer64 where
  toInt : Int
  least_le : Int64.minValue.toInt ≤ toInt
  lt_size : toInt < UInt64.size
deriving DecidableEq

namespace Integer64

/-- The integer, if 64 bits hold it. -/
def ofInt? (n : Int) : Option Integer64 :=
  if h : Int64.minValue.toInt ≤ n ∧ n < UInt64.size then some ⟨n, h.1, h.2⟩ else none

/-- A signed 64-bit integer. -/
def ofInt64 (n : Int64) : Integer64 where
  toInt := n.toInt
  least_le := n.le_toInt
  lt_size := Int.lt_trans n.toInt_lt (by decide)

/-- An unsigned 32-bit integer. -/
def ofUInt32 (n : UInt32) : Integer64 where
  toInt := n.toNat
  least_le := Int.le_trans (by decide) (Int.natCast_nonneg n.toNat)
  lt_size := Int.lt_trans (Int.ofNat_lt.mpr n.toNat_lt) (by decide)

end Integer64

/-- A double that is neither infinite nor a NaN. -/
structure Binary64.Finite where
  value : Binary64
  isFinite : value.isFinite = true
deriving DecidableEq

/-- A number: an integer or a finite double. -/
inductive Number where
  | int (n : Integer64)
  | float (x : Binary64.Finite)
deriving DecidableEq

/-- A double as a number, if it is finite. -/
def Number.ofBinary64? (x : Binary64) : Option Number :=
  if h : x.isFinite = true then some (.float ⟨x, h⟩) else none

/-- An untyped value. -/
inductive Json where
  | null
  | bool (b : Bool)
  | num (n : Number)
  | str (s : String)
  | arr (items : List Json)
  | obj (fields : Entries Json none)
deriving Inhabited

namespace Json

/-- A signed 64-bit integer as a value. -/
def ofInt64 (n : Int64) : Json := .num (.int (.ofInt64 n))

/-- An unsigned 32-bit integer as a value. -/
def ofUInt32 (n : UInt32) : Json := .num (.int (.ofUInt32 n))

/-- The integer that the value is, if it is a number kept as one. -/
def integer? : Json → Option Int
  | .num (.int n) => some n.toInt
  | _ => none

@[simp] theorem integer?_ofInt64 (n : Int64) : (ofInt64 n).integer? = some n.toInt := rfl

@[simp] theorem integer?_ofUInt32 (n : UInt32) : (ofUInt32 n).integer? = some (n.toNat : Int) := rfl

/-- The text that the value is, if it is one. -/
def string? : Json → Option String
  | .str s => some s
  | _ => none

/-- The dictionary that the value is, if it is one. -/
def fields? : Json → Option (Dict Json)
  | .obj fields => some fields
  | _ => none

end Json

end Hypertext
