import Hypertext.Dict
import Hypertext.Json.Numeral

/-!
# Reading JSON text

* `Json.ofText?` reads a value and refuses anything that is not the text of one.
* A numeral is read as far as the characters of numerals go, and must then be one.
* Of two fields with one key the later stands. An escape pair of surrogates is one character.
-/

namespace Hypertext

namespace Json.Reader

/-- Whether the character may stand between the tokens of a JSON text. -/
def isSpace (c : Char) : Bool :=
  c = ' ' || c = '\t' || c = '\n' || c = '\r'

/-- The text without leading space. -/
def skipSpace (cs : List Char) : List Char :=
  cs.dropWhile isSpace

/-- What follows a fixed word. -/
def after? (word : List Char) (cs : List Char) : Option (List Char) :=
  if word.isPrefixOf cs then some (cs.drop word.length) else none

/-- The number that four hexadecimal digits denote, and the rest. -/
def hexUnit? : List Char → Option (Nat × List Char)
  | a :: b :: c :: d :: rest => do
    let a ← Text.hexValue? a
    let b ← Text.hexValue? b
    let c ← Text.hexValue? c
    let d ← Text.hexValue? d
    some (((a * 16 + b) * 16 + c) * 16 + d, rest)
  | _ => none

/-- The character of an escape after its `\u`, and the rest; two surrogates make one character. -/
def unicodeEscape? (cs : List Char) : Option (Char × List Char) := do
  let (high, rest) ← hexUnit? cs
  if high < 0xD800 ∨ 0xDFFF < high then some (Char.ofNat high, rest)
  else
    let rest ← after? ['\\', 'u'] rest
    let (low, rest) ← hexUnit? rest
    if high < 0xDC00 ∧ 0xDC00 ≤ low ∧ low ≤ 0xDFFF then
      some (Char.ofNat (0x10000 + (high - 0xD800) * 0x400 + (low - 0xDC00)), rest)
    else none

/-- The character of an escape after its backslash, and the rest. -/
def escape? : List Char → Option (Char × List Char)
  | '"' :: rest => some ('"', rest)
  | '\\' :: rest => some ('\\', rest)
  | '/' :: rest => some ('/', rest)
  | 'b' :: rest => some ('\x08', rest)
  | 'f' :: rest => some ('\x0c', rest)
  | 'n' :: rest => some ('\n', rest)
  | 'r' :: rest => some ('\r', rest)
  | 't' :: rest => some ('\t', rest)
  | 'u' :: rest => unicodeEscape? rest
  | _ => none

/-- The characters up to the closing quote, in reverse before `seen`, and what follows the quote. -/
def unquote? : Nat → List Char → List Char → Option (List Char × List Char)
  | 0, _, _ => none
  | fuel + 1, seen, cs =>
    match cs with
    | [] => none
    | '"' :: rest => some (seen.reverse, rest)
    | '\\' :: rest => do
      let (c, rest) ← escape? rest
      unquote? fuel (c :: seen) rest
    | c :: rest => if c.toNat < 0x20 then none else unquote? fuel (c :: seen) rest

/-- The text after an opening quote, and what follows it. -/
def string? (cs : List Char) : Option (String × List Char) :=
  (unquote? (cs.length + 1) [] cs).map fun (text, rest) => (String.ofList text, rest)

/-- Whether the character may occur in a numeral. -/
def isNumeralChar (c : Char) : Bool :=
  c.isDigit || c = '-' || c = '+' || c = '.' || c = 'e' || c = 'E'

/-- A number at the front of the text, and the rest. -/
def number? (cs : List Char) : Option (Number × List Char) :=
  (Number.ofChars? (cs.takeWhile isNumeralChar)).map fun n => (n, cs.dropWhile isNumeralChar)

mutual

/-- A value at the front of the text, after space, and the rest. -/
def value? : Nat → List Char → Option (Json × List Char)
  | 0, _ => none
  | fuel + 1, cs =>
    match skipSpace cs with
    | 'n' :: rest => (after? ['u', 'l', 'l'] rest).map fun r => (.null, r)
    | 't' :: rest => (after? ['r', 'u', 'e'] rest).map fun r => (.bool true, r)
    | 'f' :: rest => (after? ['a', 'l', 's', 'e'] rest).map fun r => (.bool false, r)
    | '"' :: rest => (string? rest).map fun (s, r) => (.str s, r)
    | '[' :: rest =>
      match skipSpace rest with
      | ']' :: r => some (.arr [], r)
      | r => (items? fuel r).map fun (items, r) => (.arr items, r)
    | '\x7b' :: rest =>
      match skipSpace rest with
      | '\x7d' :: r => some (.obj .nil, r)
      | r => (fieldList? fuel r).map fun (fields, r) => (.obj (Dict.ofList fields), r)
    | r => (number? r).map fun (n, r) => (.num n, r)

/-- One or more items and the bracket that ends them. -/
def items? : Nat → List Char → Option (List Json × List Char)
  | 0, _ => none
  | fuel + 1, cs => do
    let (item, rest) ← value? fuel cs
    match skipSpace rest with
    | ',' :: rest => (items? fuel rest).map fun (items, r) => (item :: items, r)
    | ']' :: rest => some ([item], rest)
    | _ => none

/-- One or more fields and the brace that ends them. -/
def fieldList? : Nat → List Char → Option (List (String × Json) × List Char)
  | 0, _ => none
  | fuel + 1, cs => do
    let rest ← after? ['"'] (skipSpace cs)
    let (key, rest) ← string? rest
    let rest ← after? [':'] (skipSpace rest)
    let (value, rest) ← value? fuel rest
    match skipSpace rest with
    | ',' :: rest => (fieldList? fuel rest).map fun (fields, r) => ((key, value) :: fields, r)
    | '\x7d' :: rest => some ([(key, value)], rest)
    | _ => none

end

end Json.Reader

/-- The value that a text denotes. A call for a value and one for a list share each character, so
twice the length is fuel enough. -/
def Json.ofText? (s : String) : Option Json :=
  match Json.Reader.value? (2 * s.toList.length + 2) s.toList with
  | some (value, rest) => if (Json.Reader.skipSpace rest).isEmpty then some value else none
  | none => none

end Hypertext
