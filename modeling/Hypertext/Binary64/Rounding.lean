import Hypertext.Binary64.Basic

/-!
# Rounding to the nearest double

* `ofRatio` rounds a fraction of natural numbers to the nearest double, a tie to the even significand.
* `ofInt` and `ofDecimal` round an integer and a decimal `digits * 10 ^ exponent` through it.
-/

namespace Hypertext.Binary64

/-- The quotient rounded to the nearest integer, a tie to the even one. -/
def roundDiv (num den : Nat) : Nat :=
  let q := num / den
  let twice := 2 * (num % den)
  if twice < den ∨ (twice = den ∧ q % 2 = 0) then q else q + 1

/-- The fraction `num / den` divided by `2 ^ e`, as a pair of numerator and denominator. -/
def scaleDown (num den : Nat) (e : Int) : Nat × Nat :=
  if 0 ≤ e then (num, den <<< e.toNat) else (num <<< (-e).toNat, den)

/-- The power of two that leaves 53 bits before the point of `num / den`, or the smallest one of the format. -/
def unitExponent (num den : Nat) : Int :=
  let guess := Int.ofNat num.log2 - Int.ofNat den.log2 - 52
  let (n, d) := scaleDown num den guess
  let e := if n < d * fractions then guess - 1 else guess
  max e (-1074)

/-- The double nearest to `num / den`, with a sign; infinity where the exponent is too large. -/
def ofRatio (negative : Bool) (num den : Nat) : Binary64 :=
  if num = 0 then zero negative
  else
    let e := unitExponent num den
    let (n, d) := scaleDown num den e
    let magnitude := (e + 1074).toNat * fractions + roundDiv n d
    if magnitude < 2047 * fractions then ofFields negative magnitude else infinity negative

/-- The double nearest to an integer. -/
def ofInt (n : Int) : Binary64 :=
  ofRatio (n < 0) n.natAbs 1

/-- The double nearest to `digits * 10 ^ exponent`, with a sign.

A nonzero decimal of 310 digits or more before the point is beyond the largest double, and one
whose first digit stands 330 places or more after the point is below half of the smallest. -/
def ofDecimal (negative : Bool) (digits : Nat) (exponent : Int) : Binary64 :=
  let places := Int.ofNat (Nat.toDigits 10 digits).length + exponent
  if digits = 0 ∨ places < -330 then zero negative
  else if 310 ≤ places then infinity negative
  else if 0 ≤ exponent then ofRatio negative (digits * Nat.pow 10 exponent.toNat) 1
  else ofRatio negative digits (Nat.pow 10 (-exponent).toNat)

end Hypertext.Binary64
