import Hypertext.Binary64.Rounding

/-!
# Scaling doubles by powers of ten

* `mul` and `div` round the exact product and quotient of two finite doubles.
* `scale?` multiplies by a power of ten, itself a double, in as few steps as there are powers for.
-/

namespace Hypertext.Binary64

/-- The magnitude of a finite number as a numerator and a denominator. -/
def magnitude (x : Binary64) : Nat × Nat :=
  scaleDown x.significand 1 (-x.exponent)

/-- The product of two finite numbers. -/
def mul (x y : Binary64) : Binary64 :=
  let (n, d) := x.magnitude
  let (n', d') := y.magnitude
  ofRatio (x.isNegative != y.isNegative) (n * n') (d * d')

/-- The quotient of two finite numbers, the second of them not zero. -/
def div (x y : Binary64) : Binary64 :=
  let (n, d) := x.magnitude
  let (n', d') := y.magnitude
  ofRatio (x.isNegative != y.isNegative) (n * d') (d * n')

/-- The largest power of ten that a double holds. -/
def maxPowerOfTen : Nat := 308

/-- The double nearest to a power of ten. -/
def powerOfTen (n : Nat) : Binary64 :=
  ofRatio false (Nat.pow 10 n) 1

/-- A finite number times `10 ^ e`, rounded at each step, and nothing beyond the largest double. A
power that is too small for one step is divided out in several. -/
def scale? (x : Binary64) (e : Int) : Option Binary64 :=
  if x.significand = 0 then some x
  else if maxPowerOfTen < e then none
  else if 0 ≤ e then
    let y := x.mul (powerOfTen e.toNat)
    if y.isFinite then some y else none
  else if -maxPowerOfTen ≤ e then some (x.div (powerOfTen (-e).toNat))
  else scale? (x.div (powerOfTen maxPowerOfTen)) (e + maxPowerOfTen)
termination_by (-e).toNat
decreasing_by simp only [maxPowerOfTen] at *; omega

end Hypertext.Binary64
