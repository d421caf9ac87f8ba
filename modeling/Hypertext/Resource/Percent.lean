import Hypertext.Text.Numeral
import Hypertext.Text.Utf8

/-!
# Percent escapes

* `decode` turns each escape, a percent sign and two hexadecimal digits, into its byte and every
  other character into its UTF-8 bytes.
* An escape spans the two bytes after the sign. It is truncated where they are missing or end
  within a character. A plus sign in place of the first digit counts as a zero.
-/

namespace Hypertext.Percent

/-- Why a text cannot be decoded. -/
inductive Error where
  /-- An escape that begins at this byte offset is cut short. -/
  | truncated (offset : Nat)
  /-- What follows the percent sign is no byte in hexadecimal. -/
  | badEscape (digits : String)
deriving DecidableEq, Repr

/-- The wording of an error. -/
def Error.message : Error → String
  | .truncated offset => "truncated escape at byte " ++ Text.decimalNat offset
  | .badEscape digits => "bad escape '%" ++ digits ++ "'"

/-- The byte of two characters: two hexadecimal digits, or a plus sign and one. -/
def byte? (high low : Char) : Option UInt8 :=
  match (if high = '+' then some 0 else Text.hexValue? high), Text.hexValue? low with
  | some h, some l => some (UInt8.ofNat (h * 16 + l))
  | _, _ => none

/-- The bytes of a text that begins at byte offset `start`. -/
def decodeFrom (start : Nat) : List Char → Except Error (List UInt8)
  | [] => .ok []
  | c :: rest =>
    if c = '%' then
      match rest with
      | [] => .error (.truncated start)
      | [high] =>
        if high.utf8Size = 2 then .error (.badEscape (String.singleton high))
        else .error (.truncated start)
      | high :: low :: text =>
        if high.utf8Size = 1 ∧ low.utf8Size = 1 then
          match byte? high low with
          | some b => (decodeFrom (start + 3) text).map (b :: ·)
          | none => .error (.badEscape (String.ofList [high, low]))
        else if high.utf8Size = 2 then .error (.badEscape (String.singleton high))
        else .error (.truncated start)
    else (decodeFrom (start + c.utf8Size) rest).map (Text.utf8Chars [c] ++ ·)

/-- The bytes that a percent-encoded text stands for. -/
def decode (text : String) : Except Error (List UInt8) :=
  decodeFrom 0 text.toList

end Hypertext.Percent
