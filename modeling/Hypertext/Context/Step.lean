import Hypertext.Context.Reading
import Hypertext.Context.Scope

/-!
# Steps on scopes

A `Scope.Step` is one operation on a scope. `perform` carries it out, and `performAll` carries out a
list of them and keeps, for each, its answer with the depth and the number of warnings after it.
-/

namespace Hypertext.Scope

/-- An operation on a scope. -/
inductive Step where
  | push
  | pop
  | set (key : String) (value : Json)
  | setSerialized (key : String) (serialized : Except String Json)
  | setNested (key nested : String) (value : Json)
  | get (key : String)
  | remove (key : String)
  | innermost
  | requestPath
  | parameter (name : String)
  | header (name : String)
  | cookie (name : String)
  | sessionValue (name : String)
  | read (reading : Reading)

/-- What an operation left behind. -/
structure Entry where
  answer : Answer
  /-- The number of frames after it. -/
  depth : Nat
  /-- The number of recorded warnings after it. -/
  warnings : Nat

/-- Carries out an operation. -/
def perform (step : Step) (scope : Scope) (w : Warnings) : Answer × Scope × Warnings :=
  match step with
  | .push => (.done, scope.push, w)
  | .pop =>
    match scope.pop with
    | (frame, scope) => (.ofOption (fun frame => .json (.obj frame)) frame, scope, w)
  | .set key value => (.done, scope.set key value, w)
  | .setSerialized key serialized =>
    match scope.setSerialized key serialized with
    | (scope, .ok ()) => (.done, scope, w)
    | (scope, .error e) => (.unserializable e, scope, w)
  | .setNested key nested value => (.done, scope.setNested key nested value, w)
  | .get key => (.ofOption .json (scope.value? key), scope, w)
  | .remove key =>
    match scope.remove key with
    | (value, scope) => (.ofOption .json value, scope, w)
  | .innermost => (.json (.obj scope.innermost), scope, w)
  | .requestPath => (.ofOption .text scope.requestPath, scope, w)
  | .parameter name => (.ofOption .text (scope.parameter name), scope, w)
  | .header name => (.ofOption .text (scope.header name), scope, w)
  | .cookie name => (.ofOption .text (scope.cookie name), scope, w)
  | .sessionValue name => (.ofOption .json (scope.sessionValue name), scope, w)
  | .read reading =>
    match reading.perform scope w with
    | (answer, w) => (answer, scope, w)

/-- Carries out operations in order. -/
def performAll : List Step → Scope → Warnings → List Entry × Scope × Warnings
  | [], scope, w => ([], scope, w)
  | step :: steps, scope, w =>
    match perform step scope w with
    | (answer, scope, w) =>
      match performAll steps scope w with
      | (entries, final) => (⟨answer, scope.depth, w.count⟩ :: entries, final)

end Hypertext.Scope
