import Hypertext.Resource.DataUrl
import Hypertext.Resource.FileStore

/-!
# Locations

`loadText` gives the text behind a location: a web address, a data URL, a file URL or a path.

* A `World` holds what there is to load besides data URLs: files, and a `Web` that answers requests.
* Only a response with a status of success has a text.
-/

namespace Hypertext

/-- What a server answers to a request. -/
structure Response where
  status : UInt16
  /-- The text that comes with it, or why it could not be received. -/
  body : Except String String

/-- The answers to requests for web addresses, or why there is none. -/
abbrev Web := String → Except String Response

/-- Without a connection every request fails. -/
def Web.unreachable : Web := fun _ => .error "error sending request"

/-- What there is to load. -/
structure World where
  files : FileStore := .nil
  web : Web := .unreachable

/-- Whether the status tells of success. -/
def Response.isSuccess (response : Response) : Bool :=
  200 ≤ response.status && response.status < 300

/-- The text of a web address. -/
def Web.fetchText (web : Web) (url : String) : Except ResourceError String := do
  let response ← (web url).mapError (.network url)
  if response.isSuccess then response.body.mapError (.network url)
  else .error (.status url response.status)

/-- What follows a fixed beginning of a text. -/
def afterStart? (start text : String) : Option String :=
  if start.toList.isPrefixOf text.toList then
    some (String.ofList (text.toList.drop start.toList.length))
  else none

/-- Whether the location is a web address. -/
def isWebAddress (location : String) : Bool :=
  (afterStart? "http://" location).isSome || (afterStart? "https://" location).isSome

/-- The text of a data URL. -/
def dataText (location : String) : Except ResourceError String := do
  let url ← (DataUrl.parse location).mapError .invalidDataUrl
  let bytes ← url.decode.mapError .decode
  match Text.ofUtf8? bytes with
  | some text => .ok text
  | none => .error (.notUtf8 location)

/-- The text behind a location. -/
def loadText (world : World) (location : String) : Except ResourceError String :=
  if isWebAddress location then world.web.fetchText location
  else if (afterStart? "data:" location).isSome then dataText location
  else
    let path := (afterStart? "file://" location).getD location
    (world.files.readText path).mapError (.read path)

end Hypertext
