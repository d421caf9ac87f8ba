import Hypertext.Resource.Base64
import Hypertext.Resource.Percent

/-!
# Failures of text resources

`ResourceError` lists why the text behind a location cannot be had, and `message` words it.
-/

namespace Hypertext

/-- Why a file cannot be read as text. -/
inductive ReadError where
  | notFound
  | notADirectory
  | isADirectory
  | nameTooLong
  | notUtf8
  | nulInName
deriving DecidableEq, Repr

/-- The wording of a read error. -/
def ReadError.message : ReadError → String
  | .notFound => "No such file or directory (os error 2)"
  | .notADirectory => "Not a directory (os error 20)"
  | .isADirectory => "Is a directory (os error 21)"
  | .nameTooLong => "File name too long (os error 36)"
  | .notUtf8 => "stream did not contain valid UTF-8"
  | .nulInName => "file name contained an unexpected NUL byte"

/-- Why a text is not a data URL. -/
inductive DataUrlError where
  | missingScheme
  | missingComma
deriving DecidableEq, Repr

/-- The wording of a data URL error. -/
def DataUrlError.message : DataUrlError → String
  | .missingScheme => "missing 'data:' prefix"
  | .missingComma => "missing comma"

/-- Why the payload of a data URL cannot be decoded. -/
inductive DecodeError where
  | base64 (cause : Base64.Error)
  | percent (cause : Percent.Error)
deriving DecidableEq, Repr

/-- The wording of a decode error. -/
def DecodeError.message : DecodeError → String
  | .base64 cause => cause.message
  | .percent cause => cause.message

/-- Why a resource cannot be turned into text. -/
inductive ResourceError where
  | read (path : String) (cause : ReadError)
  /-- The request failed, or the text of the response could not be received. -/
  | network (url cause : String)
  /-- The server answered with another status than success. -/
  | status (url : String) (code : UInt16)
  | invalidDataUrl (cause : DataUrlError)
  | decode (cause : DecodeError)
  | notUtf8 (location : String)
deriving DecidableEq, Repr

/-- The wording of a resource error. -/
def ResourceError.message : ResourceError → String
  | .read path cause => "failed to read '" ++ path ++ "': " ++ cause.message
  | .network url cause => "request for '" ++ url ++ "' failed: " ++ cause
  | .status url code => "HTTP error " ++ Text.decimalNat code.toNat ++ " for '" ++ url ++ "'"
  | .invalidDataUrl cause => "invalid data URL: " ++ cause.message
  | .decode cause => "failed to decode data URL payload: " ++ cause.message
  | .notUtf8 location => "resource '" ++ location ++ "' is not valid UTF-8"

end Hypertext
