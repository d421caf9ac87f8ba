import Hypertext.Binary64.Numeral
import Hypertext.Json.Basic

/-!
# JSON text

* `Number.text` writes an integer in decimal and a double with its shortest digits.
* `Json.text` writes a value without spaces, the keys of a dictionary in its order. Quotes,
  backslashes and control characters of a text are escaped, all other characters stand for themselves.
-/

namespace Hypertext

/-- The text of a number. -/
def Number.text : Number → String
  | .int n => Text.decimal n.toInt
  | .float x => x.value.text

namespace Json

/-- The characters that stand for one character inside quotes. -/
def escapeChar (c : Char) : List Char :=
  if c = '"' then ['\\', '"']
  else if c = '\\' then ['\\', '\\']
  else if c = '\n' then ['\\', 'n']
  else if c = '\r' then ['\\', 'r']
  else if c = '\t' then ['\\', 't']
  else if c = '\x08' then ['\\', 'b']
  else if c = '\x0c' then ['\\', 'f']
  else if c.toNat < 0x20 then '\\' :: 'u' :: Text.hexDigits 4 c.toNat
  else [c]

/-- A text between quotes. -/
def quoted (s : String) : List Char :=
  '"' :: (s.toList.flatMap escapeChar ++ ['"'])

mutual

/-- The characters of a value. -/
def chars : Json → List Char
  | .null => ['n', 'u', 'l', 'l']
  | .bool true => ['t', 'r', 'u', 'e']
  | .bool false => ['f', 'a', 'l', 's', 'e']
  | .num n => n.text.toList
  | .str s => quoted s
  | .arr [] => ['[', ']']
  | .arr (item :: items) => '[' :: (chars item ++ itemsChars items ++ [']'])
  | .obj .nil => ['\x7b', '\x7d']
  | .obj (.cons key value _ fields) =>
    '\x7b' :: (quoted key ++ ':' :: chars value ++ fieldsChars fields ++ ['\x7d'])

/-- The characters of the items after the first, each after a comma. -/
def itemsChars : List Json → List Char
  | [] => []
  | item :: items => ',' :: (chars item ++ itemsChars items)

/-- The characters of the fields after the first, each after a comma. -/
def fieldsChars {bound : Option String} : Entries Json bound → List Char
  | .nil => []
  | .cons key value _ fields => ',' :: (quoted key ++ ':' :: chars value ++ fieldsChars fields)

end

/-- The compact text of a value. -/
def text (value : Json) : String :=
  String.ofList value.chars

end Json

end Hypertext
