import Hypertext.Text.Numeral

/-!
# Failures of serialization

A `SerializationError` says why a value could not be serialized and, if it is known, at which line
and column.

* `ofText` takes the position off the end of a text, where it is written ` at line L column C`.
* `message` writes it there again. Lines are counted from one, so line zero is no position.
-/

namespace Hypertext

/-- Why and where a value could not be serialized. -/
structure SerializationError where
  cause : String
  line : Nat := 0
  column : Nat := 0
deriving DecidableEq, Repr, Inhabited

namespace SerializationError

/-- What stands before the number of the line. -/
def lineMark : String := " at line "

/-- What stands before the number of the column. -/
def columnMark : String := " column "

/-- A number of at most 64 bits at the end of a text that follows a mark, and what stands before the
mark. The text is given and answered in reverse. -/
def numberAfter? (mark : String) (reversed : List Char) : Option (Nat × List Char) :=
  let before := reversed.dropWhile Char.isDigit
  match Text.digits? (reversed.takeWhile Char.isDigit).reverse with
  | some n =>
    if n < UInt64.size ∧ mark.toList.reverse.isPrefixOf before then
      some (n, before.drop mark.length)
    else none
  | none => none

/-- The cause and the position that a text tells. -/
def ofText (text : String) : SerializationError :=
  match numberAfter? columnMark text.toList.reverse with
  | some (column, rest) =>
    match numberAfter? lineMark rest with
    | some (line, rest) => { cause := String.ofList rest.reverse, line, column }
    | none => { cause := text }
  | none => { cause := text }

/-- The wording of a serialization error. -/
def message (e : SerializationError) : String :=
  if e.line = 0 then e.cause
  else e.cause ++ lineMark ++ Text.decimalNat e.line ++ columnMark ++ Text.decimalNat e.column

end SerializationError

end Hypertext
