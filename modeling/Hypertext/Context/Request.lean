/-!
# Reserved keys

The keys under which what is known of a request is bound: its path as a text, everything else as a
dictionary.
-/

namespace Hypertext.Request

/-- The path of the request. -/
def path : String := "request.path"

/-- Query and form parameters by name. -/
def parameters : String := "request.parameters"

/-- Attributes of the session. -/
def session : String := "request.session"

/-- Headers by name. -/
def headers : String := "request.headers"

/-- Cookies by name. -/
def cookies : String := "request.cookies"

/-- All reserved keys. -/
def reserved : List String := [path, parameters, session, headers, cookies]

/-- Whether the key is reserved. -/
def isReserved (key : String) : Bool :=
  reserved.contains key

end Hypertext.Request
