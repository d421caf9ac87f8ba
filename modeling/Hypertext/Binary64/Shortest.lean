import Hypertext.Binary64.Rounding

/-!
# The shortest decimal of a double

* `shortest` gives the fewest decimal digits that read back as the same double, the nearest such
  decimal where there are several.

The reals that round to a double form an interval around it, which holds its ends exactly when the
significand is even. On the grid of `n`-digit decimals only the two neighbours of the value need a
test: if any point of the grid lies in the interval, so does one of them.
-/

namespace Hypertext.Binary64

/-- A positive decimal `digits * 10 ^ exponent`. -/
structure Decimal where
  digits : Nat
  exponent : Int
deriving DecidableEq, Repr, Inhabited

/-- The decimal without trailing zeros. -/
def Decimal.strip (d : Decimal) : Decimal :=
  if 0 < d.digits ∧ d.digits % 10 = 0 then Decimal.strip ⟨d.digits / 10, d.exponent + 1⟩ else d
termination_by d.digits
decreasing_by omega

/-- A positive value with the interval of reals that round to it, over one denominator. -/
structure Interval where
  low : Nat
  value : Nat
  high : Nat
  den : Nat
  closed : Bool

/-- The interval of a finite double. Below a power of two the gap to the next double is half as wide. -/
def interval (x : Binary64) : Interval :=
  let m := x.significand
  let narrow := x.fraction = 0 ∧ 1 < x.exponentField
  let e := x.exponent - 2
  let up := 1 <<< e.toNat
  { low := (4 * m - if narrow then 1 else 2) * up
    value := 4 * m * up
    high := (4 * m + 2) * up
    den := 1 <<< (-e).toNat
    closed := m % 2 == 0 }

/-- Whether a point lies in the interval, given as a numerator over `den * scale`. -/
def Interval.contains (i : Interval) (point scale : Nat) : Bool :=
  if i.closed then i.low * scale ≤ point && point ≤ i.high * scale
  else i.low * scale < point && point < i.high * scale

/-- The power of ten at the first digit of the value. -/
def Interval.leading (i : Interval) : Int :=
  let p := Int.ofNat (Nat.toDigits 10 i.value).length - Int.ofNat (Nat.toDigits 10 i.den).length
  let fits := if 0 ≤ p then i.den * Nat.pow 10 p.toNat ≤ i.value
    else i.den ≤ i.value * Nat.pow 10 (-p).toNat
  if fits then p else p - 1

/-- The nearest decimal of the grid `10 ^ p` in the interval, if there is one; of two equally near
ones the one with the even last digit. -/
def Interval.onGrid? (i : Interval) (p : Int) : Option Decimal :=
  -- a grid point `k` is compared as `k * unit` with `value * scale`
  let unit := i.den * Nat.pow 10 p.toNat
  let scale := Nat.pow 10 (-p).toNat
  let below := i.value * scale / unit
  let above := below + 1
  let downward := i.value * scale - below * unit
  let upward := above * unit - i.value * scale
  let belowFits := i.contains (below * unit) scale
  let aboveFits := i.contains (above * unit) scale
  if belowFits && (!aboveFits || downward < upward || (downward == upward && below % 2 == 0)) then
    some ⟨below, p⟩
  else if aboveFits then some ⟨above, p⟩
  else none

/-- The shortest decimal of a positive finite double. Seventeen digits always suffice. -/
def shortest (x : Binary64) : Decimal :=
  let i := x.interval
  let candidates := (List.range 17).filterMap fun n => i.onGrid? (i.leading - Int.ofNat n)
  ((candidates.head?).getD ⟨0, 0⟩).strip

end Hypertext.Binary64
