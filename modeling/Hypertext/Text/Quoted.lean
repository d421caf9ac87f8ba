import Hypertext.Text.Extender
import Hypertext.Text.Unprinted

/-!
# Quoted texts

`quote` writes a text between double quotes so that every character can be told apart.

* A quote, a backslash and the commonest controls are written with a backslash.
* A character that has no mark of its own, or that joins the one before it, is written by its number.
-/

namespace Hypertext.Text

/-- The number of a character in hexadecimal digits between braces. -/
def numbered (c : Char) : List Char :=
  ['\\', 'u', '\x7b'] ++ Nat.toDigits 16 c.toNat ++ ['\x7d']

/-- What stands for one character between quotes. -/
def quoteChar (c : Char) : List Char :=
  if c = '"' then ['\\', '"']
  else if c = '\\' then ['\\', '\\']
  else if c = '\n' then ['\\', 'n']
  else if c = '\r' then ['\\', 'r']
  else if c = '\t' then ['\\', 't']
  else if c = '\x00' then ['\\', '0']
  else if isExtender c || isUnprinted c then numbered c
  else [c]

/-- A text between quotes. -/
def quote (text : String) : String :=
  String.ofList ('"' :: (text.toList.flatMap quoteChar ++ ['"']))

end Hypertext.Text
