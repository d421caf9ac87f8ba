import Hypertext.Context.Frame
import Hypertext.Context.Request
import Hypertext.Context.SerializationError

/-!
# Scopes

A `Scope` is a stack of frames over a root frame that is never dropped.

* A key is looked up from the innermost frame outwards; `set` and `setNested` write to the innermost
  frame only, so what they bind is gone with it.
* The first nested write to a key in a frame starts from a copy of the dictionary visible there.
* `remove` takes a key out of every frame.
* `header` compares names without regard to letter case, the others exactly.
-/

namespace Hypertext

/-- A stack of frames. -/
structure Scope where
  /-- The frame that is always there. -/
  root : Frame := .nil
  /-- The frames on top of it, innermost first. -/
  frames : List Frame := []

namespace Scope

/-- All the frames, innermost first, the root last. -/
def chain (scope : Scope) : List Frame :=
  scope.frames ++ [scope.root]

/-- The number of frames, the root included. -/
def depth (scope : Scope) : Nat :=
  scope.frames.length + 1

/-- The value of the nearest frame that binds the key. -/
def value? (scope : Scope) (key : String) : Option Json :=
  scope.chain.findSome? fun frame => Dict.get? key frame

instance : Bindings Scope where
  value? := value?

/-- Enters a new empty frame. -/
def push (scope : Scope) : Scope :=
  { scope with frames := .nil :: scope.frames }

/-- The innermost frame if it is not the root, and the scope without it. -/
def pop (scope : Scope) : Option Frame × Scope :=
  match scope.frames with
  | [] => (none, scope)
  | frame :: frames => (some frame, { scope with frames })

/-- The innermost frame. -/
def innermost (scope : Scope) : Frame :=
  scope.frames.headD scope.root

/-- Changes the innermost frame. -/
def modifyInnermost (scope : Scope) (f : Frame → Frame) : Scope :=
  match scope.frames with
  | [] => { scope with root := f scope.root }
  | frame :: frames => { scope with frames := f frame :: frames }

/-- Binds the key in the innermost frame. -/
def set (scope : Scope) (key : String) (value : Json) : Scope :=
  scope.modifyInnermost fun frame => frame.set key value

/-- Binds the key to a serialized value. Without one it fails as the serializer says and changes
nothing. -/
def setSerialized (scope : Scope) (key : String) (serialized : Except String Json) :
    Scope × Except SerializationError Unit :=
  match serialized with
  | .ok value => (scope.set key value, .ok ())
  | .error text => (scope, .error (SerializationError.ofText text))

/-- The scope whose innermost frame binds the key to a copy of the inherited dictionary, unless the
frame binds the key already or there is no dictionary to inherit. -/
def inherit (scope : Scope) (key : String) : Scope :=
  if Bindings.contains scope.innermost key then scope
  else match Bindings.getMap scope key with
    | some fields => scope.set key (.obj fields)
    | none => scope

/-- Binds `nested` in the dictionary under `key` of the innermost frame. -/
def setNested (scope : Scope) (key nested : String) (value : Json) : Scope :=
  (scope.inherit key).modifyInnermost fun frame => frame.setNested key nested value

/-- Removes the key from every frame, from the innermost one to the root, and answers the first value that it was
bound to. -/
def remove (scope : Scope) (key : String) : Option Json × Scope :=
  match Frame.removeAll key none scope.frames with
  | (found, frames) =>
    match scope.root.remove key with
    | (value, root) => (found.or value, { root, frames })

/-- The text under a name of the dictionary under a key. -/
def nestedString (scope : Scope) (key name : String) : Option String :=
  (Bindings.getMap scope key).bind fun fields => Bindings.getString fields name

/-- The path of the request. -/
def requestPath (scope : Scope) : Option String :=
  Bindings.getString scope Request.path

/-- A parameter of the request. -/
def parameter (scope : Scope) (name : String) : Option String :=
  scope.nestedString Request.parameters name

/-- A cookie of the request. -/
def cookie (scope : Scope) (name : String) : Option String :=
  scope.nestedString Request.cookies name

/-- An attribute of the session. -/
def sessionValue (scope : Scope) (name : String) : Option Json :=
  (Bindings.getMap scope Request.session).bind fun fields => Dict.get? name fields

/-- A header of the request: the first whose name is the same up to letter case. -/
def header (scope : Scope) (name : String) : Option String :=
  (Bindings.getMap scope Request.headers).bind fun headers =>
    (headers.toList.find? fun (key, _) => Text.sameIgnoringCase key name).bind fun (key, _) =>
      Bindings.getString headers key

end Scope

end Hypertext
