import Hypertext.Text.Numeral

/-!
# Double-precision numbers

A `Binary64` is its 64 bits: a sign, eleven exponent bits and 52 fraction bits.

* `significand` and `exponent` give the magnitude of a finite number as `significand * 2 ^ exponent`.
* `hex` writes the bits as sixteen hexadecimal digits.
-/

namespace Hypertext

/-- An IEEE 754 double, given by its bits. -/
structure Binary64 where
  /-- The interchange format: sign, exponent and fraction, most significant bit first. -/
  bits : UInt64
deriving DecidableEq, Repr, Inhabited

namespace Binary64

/-- Whether the sign bit is set. -/
def isNegative (x : Binary64) : Bool :=
  x.bits.toNat >>> 63 == 1

/-- The number of values of the 52 fraction bits, which is the smallest significand of 53 bits. -/
def fractions : Nat := 1 <<< 52

/-- The eleven exponent bits. -/
def exponentField (x : Binary64) : Nat :=
  x.bits.toNat / fractions % 2048

/-- The 52 fraction bits. -/
def fraction (x : Binary64) : Nat :=
  x.bits.toNat % fractions

/-- Whether the number is neither infinite nor a NaN. -/
def isFinite (x : Binary64) : Bool :=
  x.exponentField < 2047

/-- Whether the bits denote no number. -/
def isNaN (x : Binary64) : Bool :=
  x.exponentField == 2047 && x.fraction != 0

/-- The integer significand of a finite number. -/
def significand (x : Binary64) : Nat :=
  if x.exponentField = 0 then x.fraction else fractions + x.fraction

/-- The power of two that scales the significand of a finite number. -/
def exponent (x : Binary64) : Int :=
  if x.exponentField = 0 then -1074 else Int.ofNat x.exponentField - 1075

/-- The number with this sign and these lower 63 bits. -/
def ofFields (negative : Bool) (magnitude : Nat) : Binary64 :=
  ⟨UInt64.ofNat ((if negative then 1 <<< 63 else 0) + magnitude)⟩

/-- Zero with a sign. -/
def zero (negative : Bool) : Binary64 :=
  ofFields negative 0

/-- Infinity with a sign. -/
def infinity (negative : Bool) : Binary64 :=
  ofFields negative (2047 * fractions)

/-- A quiet NaN with a sign. -/
def nan (negative : Bool) : Binary64 :=
  ofFields negative (2047 * fractions + fractions / 2)

/-- The bits as sixteen lowercase hexadecimal digits. -/
def hex (x : Binary64) : String :=
  String.ofList (Text.hexDigits 16 x.bits.toNat)

end Binary64

end Hypertext
