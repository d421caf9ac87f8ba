import Hypertext.Resource.Error

/-!
# Data URLs

* `DataUrl.parse` splits `data:metadata,payload` at its first comma.
* `DataUrl.text` writes it again.
* `decode` gives the bytes of the payload: base64 where the metadata ends in `;base64`, else
  percent-encoded. `decodeWith` leaves base64 to a decoder.
-/

namespace Hypertext

/-- A data URL. -/
structure DataUrl where
  /-- What stands between the scheme and the comma. -/
  metadata : String
  /-- What stands after the comma. -/
  payload : String
deriving DecidableEq, Repr

namespace DataUrl

/-- The scheme with its colon. -/
def scheme : List Char := ['d', 'a', 't', 'a', ':']

/-- The URL as text. -/
def text (url : DataUrl) : String :=
  String.ofList scheme ++ url.metadata ++ "," ++ url.payload

/-- The characters before the first comma and those after it, if there is a comma. -/
def splitComma? : List Char → Option (List Char × List Char)
  | [] => none
  | c :: cs =>
    if c = ',' then some ([], cs)
    else (splitComma? cs).map fun (before, after) => (c :: before, after)

/-- The data URL that a text is. A missing scheme is reported before a missing comma. -/
def parse (raw : String) : Except DataUrlError DataUrl :=
  if scheme.isPrefixOf raw.toList then
    match splitComma? (raw.toList.drop scheme.length) with
    | some (metadata, payload) => .ok ⟨String.ofList metadata, String.ofList payload⟩
    | none => .error .missingComma
  else .error .missingScheme

/-- The end of the metadata that marks a base64 payload. -/
def base64Mark : List Char := [';', 'b', 'a', 's', 'e', '6', '4']

/-- Whether the payload is base64. -/
def isBase64 (url : DataUrl) : Bool :=
  base64Mark.isSuffixOf url.metadata.toList

/-- The bytes of the payload, where base64 is left to a decoder. -/
def decodeWith (base64 : List UInt8 → Except Base64.Error (List UInt8)) (url : DataUrl) :
    Except DecodeError (List UInt8) :=
  if url.isBase64 then (base64 (Text.utf8 url.payload)).mapError .base64
  else (Percent.decode url.payload).mapError .percent

/-- The bytes of the payload. -/
def decode (url : DataUrl) : Except DecodeError (List UInt8) :=
  url.decodeWith Base64.decode

end DataUrl

end Hypertext
