import Hypertext.Binary64.Scaling
import Hypertext.Json.Basic
import Hypertext.Text.Numeral

/-!
# JSON numerals

* A numeral without a point or an exponent is an integer where 64 bits hold it, signed or unsigned.
* Every other numeral, `-0` among them, is a double: the leading digits that 64 bits hold are
  rounded to a double, which is then scaled by a power of ten. Scaling rounds once more, so a numeral
  with many digits or a large exponent may be one unit off the nearest double.
* A numeral beyond the largest double is none.
-/

namespace Hypertext.Json.Numeral

/-- The integer part, the digits after the point and the exponent of a numeral without its sign. -/
structure Parts where
  whole : List Char
  fraction : Option (List Char)
  exponent : Option Int

/-- Whether there is a digit and no superfluous zero in front of others. -/
def isPlainWhole : List Char → Bool
  | [] => false
  | ['0'] => true
  | d :: _ => d != '0'

/-- The exponent at the end of a numeral: nothing, or `e` and a signed integer. -/
def exponent? : List Char → Option (Option Int)
  | [] => some none
  | c :: cs => if c = 'e' ∨ c = 'E' then (Text.integerChars? cs).map some else none

/-- The parts of a numeral without its sign. -/
def parts? (cs : List Char) : Option Parts :=
  let whole := cs.takeWhile Char.isDigit
  if !isPlainWhole whole then none
  else match cs.dropWhile Char.isDigit with
    | '.' :: rest =>
      let fraction := rest.takeWhile Char.isDigit
      if fraction.isEmpty then none
      else (exponent? (rest.dropWhile Char.isDigit)).map (⟨whole, some fraction, ·⟩)
    | rest => (exponent? rest).map (⟨whole, none, ·⟩)

/-- Appends digits to a number until one would take it beyond 64 bits; the number of digits that are
left over comes second. -/
def absorb : List Char → Nat → Nat × Nat
  | [], n => (n, 0)
  | d :: ds, n =>
    let next := n * 10 + (d.toNat - '0'.toNat)
    if next < UInt64.size then absorb ds next else (n, ds.length + 1)

/-- The double that a numeral denotes, with a sign. -/
def Parts.double? (negative : Bool) (p : Parts) : Option Binary64 :=
  let fraction := p.fraction.getD []
  let (n, skipped) := absorb p.whole 0
  let (n, dropped) := absorb fraction n
  let places := Int.ofNat skipped - Int.ofNat (fraction.length - dropped)
  (Binary64.ofRatio negative n 1).scale? (places + p.exponent.getD 0)

/-- The number that a numeral denotes, with a sign. -/
def Parts.number? (negative : Bool) (p : Parts) : Option Number :=
  let n : Int := Nat.ofDigitChars 10 p.whole 0
  let signed := if negative then -n else n
  let double := (p.double? negative).bind Number.ofBinary64?
  if p.fraction.isNone ∧ p.exponent.isNone ∧ ¬ (negative ∧ n = 0) then
    match Integer64.ofInt? signed with
    | some signed => some (.int signed)
    | none => double
  else double

end Hypertext.Json.Numeral

namespace Hypertext

/-- The number that a JSON numeral denotes. -/
def Number.ofChars? : List Char → Option Number
  | '-' :: cs => (Json.Numeral.parts? cs).bind (·.number? true)
  | cs => (Json.Numeral.parts? cs).bind (·.number? false)

end Hypertext
