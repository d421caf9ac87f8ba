import Hypertext.Context.Bindings

/-!
# Frames

A `Frame` is one level of bindings. `setNested` binds a key inside the dictionary under another
key, which it creates where there is none.
-/

namespace Hypertext

/-- One level of bindings: keys with their values, each key once. -/
abbrev Frame := Dict Json

namespace Frame

/-- Binds the key. -/
def set (frame : Frame) (key : String) (value : Json) : Frame :=
  Dict.insert key value frame

/-- Binds `nested` in the dictionary under `key`. A value that is no dictionary gives way to one. -/
def setNested (frame : Frame) (key nested : String) (value : Json) : Frame :=
  match Dict.get? key frame with
  | some (.obj fields) => frame.set key (.obj (Dict.insert nested value fields))
  | _ => frame.set key (.obj (Dict.insert nested value .nil))

/-- What the key was bound to, and the frame without it. -/
def remove (frame : Frame) (key : String) : Option Json × Frame :=
  (Dict.get? key frame, Dict.erase key frame)

/-- Removes the key from frames one after the other. The first value that it was bound to is answered, unless there
was one before. -/
def removeAll (key : String) (found : Option Json) : List Frame → Option Json × List Frame
  | [] => (found, [])
  | frame :: frames =>
    match frame.remove key with
    | (value, frame) =>
      match removeAll key (found.or value) frames with
      | (found, frames) => (found, frame :: frames)

end Frame

end Hypertext
