import Hypertext.Binary64.Shortest
import Hypertext.Text.Blank

/-!
# Texts of doubles

* `text` writes a finite double with its shortest digits: plainly from `1e-5` up to `1e16`, with at
  least one digit after the point, and with a signed exponent outside.
* `ofText?` reads an optional sign followed by `inf`, `infinity`, `nan` in any case, or by digits
  with an optional point and an optional exponent.
-/

namespace Hypertext.Binary64

/-- How a float literal is laid out. -/
structure Layout where
  /-- The smallest power of ten of a first digit that is written plainly. -/
  plainFrom : Int
  /-- The smallest power of ten of a first digit that is written with an exponent again. -/
  plainTo : Int

/-- Floats are plain from `1e-5` up to `1e16`. -/
def Layout.standard : Layout := ⟨-5, 16⟩

/-- Digits with the first one before the point, and no point where there is only one. -/
def scientificDigits : List Char → List Char
  | [] => []
  | [d] => [d]
  | d :: ds => d :: '.' :: ds

/-- Digits `ds` with the first at the power `lead` of ten, written without an exponent. -/
def plainDigits (ds : List Char) (lead : Int) : List Char :=
  if lead < 0 then '0' :: '.' :: (List.replicate (-lead - 1).toNat '0' ++ ds)
  else
    let whole := lead.toNat + 1
    let padded := ds ++ List.replicate (whole - ds.length) '0'
    let rest := padded.drop whole
    padded.take whole ++ '.' :: (if rest.isEmpty then ['0'] else rest)

/-- The text of a positive decimal under a layout. -/
def Decimal.layOut (layout : Layout) (d : Decimal) : List Char :=
  let ds := Nat.toDigits 10 d.digits
  let lead := d.exponent + Int.ofNat ds.length - 1
  if layout.plainFrom ≤ lead ∧ lead < layout.plainTo then plainDigits ds lead
  else
    let sign := if lead < 0 then '-' else '+'
    scientificDigits ds ++ 'e' :: sign :: Nat.toDigits 10 lead.natAbs

/-- The text of a finite double. -/
def text (x : Binary64) : String :=
  let sign := if x.isNegative then ['-'] else []
  let body := if x.significand = 0 then ['0', '.', '0'] else x.shortest.layOut Layout.standard
  String.ofList (sign ++ body)

/-- The decimal exponent that ends a literal: nothing, or `e` and a signed integer. -/
def exponentPart? : List Char → Option Int
  | [] => some 0
  | c :: cs => if c = 'e' ∨ c = 'E' then Text.integerChars? cs else none

/-- A number without a sign: digits, an optional point among or beside them, an optional exponent. -/
def unsignedNumber? (negative : Bool) (cs : List Char) : Option Binary64 :=
  let whole := cs.takeWhile Char.isDigit
  let afterWhole := cs.dropWhile Char.isDigit
  let (part, rest) := match afterWhole with
    | '.' :: r => (r.takeWhile Char.isDigit, r.dropWhile Char.isDigit)
    | r => ([], r)
  if whole.isEmpty && part.isEmpty then none
  else (exponentPart? rest).map fun e =>
    ofDecimal negative (Nat.ofDigitChars 10 (whole ++ part) 0) (e - Int.ofNat part.length)

/-- A number, infinity or NaN after its sign. -/
def unsigned? (negative : Bool) (cs : List Char) : Option Binary64 :=
  let word := cs.map Char.toLower
  if word = "inf".toList ∨ word = "infinity".toList then some (infinity negative)
  else if word = "nan".toList then some (nan negative)
  else unsignedNumber? negative cs

/-- The double that the characters of a literal denote. -/
def ofChars? : List Char → Option Binary64
  | '+' :: cs => unsigned? false cs
  | '-' :: cs => unsigned? true cs
  | cs => unsigned? false cs

/-- The double that a literal denotes. -/
def ofText? (s : String) : Option Binary64 :=
  ofChars? s.toList

end Hypertext.Binary64
