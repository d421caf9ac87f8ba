import Hypertext.Text.Numeral

/-!
# Base64

The standard alphabet with padding, in groups of four symbols for three bytes.

* `encode` writes bytes.
* `decode` reads them back. It accepts one spelling of each byte list only: the padding must be
  complete and the bits that it leaves over must be zero.
-/

namespace Hypertext.Base64

/-- Why a text is not the base64 form of bytes. -/
inductive Error where
  /-- A byte that is no symbol, or padding where a symbol must stand. -/
  | invalidSymbol (byte : UInt8) (offset : Nat)
  /-- The last group has fewer than two symbols. -/
  | invalidLength (length : Nat)
  /-- The last group is not filled up to four. -/
  | invalidPadding
  /-- The last symbol has bits that belong to no byte. -/
  | invalidLastSymbol (byte : UInt8) (offset : Nat)
deriving DecidableEq, Repr

/-- The wording of an error. -/
def Error.message : Error → String
  | .invalidSymbol byte offset =>
    "Invalid symbol " ++ Text.decimalNat byte.toNat ++ ", offset " ++ Text.decimalNat offset ++ "."
  | .invalidLength length => "Invalid input length: " ++ Text.decimalNat length
  | .invalidPadding => "Invalid padding"
  | .invalidLastSymbol byte offset =>
    "Invalid last symbol " ++ Text.decimalNat byte.toNat ++ ", offset "
      ++ Text.decimalNat offset ++ "."

/-- The padding byte `=`. -/
def pad : UInt8 := 61

/-- The symbol of a six-bit value. -/
def symbol (v : Nat) : UInt8 :=
  if v < 26 then UInt8.ofNat (65 + v)
  else if v < 52 then UInt8.ofNat (97 + (v - 26))
  else if v < 62 then UInt8.ofNat (48 + (v - 52))
  else if v = 62 then 43
  else 47

/-- The six-bit value of a symbol. -/
def value? (b : UInt8) : Option Nat :=
  if 65 ≤ b ∧ b ≤ 90 then some (b.toNat - 65)
  else if 97 ≤ b ∧ b ≤ 122 then some (b.toNat - 97 + 26)
  else if 48 ≤ b ∧ b ≤ 57 then some (b.toNat - 48 + 52)
  else if b = 43 then some 62
  else if b = 47 then some 63
  else none

/-- The base64 form of bytes. -/
def encode : List UInt8 → List UInt8
  | [] => []
  | [a] => [symbol (a.toNat / 4), symbol (a.toNat % 4 * 16), pad, pad]
  | [a, b] =>
    [symbol (a.toNat / 4), symbol (a.toNat % 4 * 16 + b.toNat / 16), symbol (b.toNat % 16 * 4), pad]
  | a :: b :: c :: rest =>
    symbol (a.toNat / 4) :: symbol (a.toNat % 4 * 16 + b.toNat / 16)
      :: symbol (b.toNat % 16 * 4 + c.toNat / 64) :: symbol (c.toNat % 64) :: encode rest

/-- The value of a symbol at an offset. -/
def symbolAt (b : UInt8) (offset : Nat) : Except Error Nat :=
  match value? b with
  | some v => .ok v
  | none => .error (.invalidSymbol b offset)

/-- The three bytes of four values. -/
def quadBytes (a b c d : Nat) : List UInt8 :=
  [UInt8.ofNat (a * 4 + b / 16), UInt8.ofNat (b % 16 * 16 + c / 4), UInt8.ofNat (c % 4 * 64 + d)]

/-- The values of the symbols of the last group, with the number of padding bytes after them.

`index` counts the bytes of the group that have been read, `pads` those of them that are padding. -/
def lastSymbols (start index pads : Nat) : List UInt8 → Except Error (List Nat × Nat)
  | [] => .ok ([], pads)
  | b :: rest =>
    if b = pad then
      if index < 2 then .error (.invalidSymbol pad (start + index))
      else lastSymbols start (index + 1) (pads + 1) rest
    else if 0 < pads then .error (.invalidSymbol pad (start + index - pads))
    else do
      let v ← symbolAt b (start + index)
      let (vs, p) ← lastSymbols start (index + 1) pads rest
      .ok (v :: vs, p)

/-- The bytes of the last group, from one to four bytes of text that begin at offset `start`. -/
def decodeLast (start : Nat) (group : List UInt8) : Except Error (List UInt8) := do
  let (values, pads) ← lastSymbols start 0 0 group
  let n := values.length
  if n < 2 then .error (.invalidLength (start + n))
  else if (n + pads) % 4 ≠ 0 then .error .invalidPadding
  else
    let leftOver := .error (.invalidLastSymbol (group.getD (n - 1) pad) (start + n - 1))
    match values with
    | [a, b] => if b % 16 ≠ 0 then leftOver else .ok [UInt8.ofNat (a * 4 + b / 16)]
    | [a, b, c] =>
      if c % 4 ≠ 0 then leftOver
      else .ok [UInt8.ofNat (a * 4 + b / 16), UInt8.ofNat (b % 16 * 16 + c / 4)]
    | [a, b, c, d] => .ok (quadBytes a b c d)
    | _ => .error .invalidPadding

/-- The bytes of a text that begins at offset `start`: full groups, then the last one. -/
def decodeFrom (start : Nat) : List UInt8 → Except Error (List UInt8)
  | [] => .ok []
  | a :: b :: c :: d :: e :: rest => do
    let va ← symbolAt a start
    let vb ← symbolAt b (start + 1)
    let vc ← symbolAt c (start + 2)
    let vd ← symbolAt d (start + 3)
    let bytes ← decodeFrom (start + 4) (e :: rest)
    .ok (quadBytes va vb vc vd ++ bytes)
  | group => decodeLast start group

/-- The bytes that a base64 text stands for.

A text one byte longer than whole groups that ends in a foreign byte, such as a line feed, is
refused for that byte before anything else. -/
def decode (text : List UInt8) : Except Error (List UInt8) :=
  match text.getLast? with
  | some last =>
    if text.length % 4 = 1 ∧ last ≠ pad ∧ value? last = none then
      .error (.invalidSymbol last (text.length - 1))
    else decodeFrom 0 text
  | none => .ok []

end Hypertext.Base64
