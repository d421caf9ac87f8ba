import Hypertext.Canvas.Operation
import Hypertext.Context.Step

/-!
# Acts

An `Act` is one thing that was done to a canvas, with what came of it. The acts of a run, in order
and without regard to what asked for them, are its history.

* `Canvas.acts` are those of operations that are performed until one fails.
* What is skipped is not done, so it leaves no act.
-/

namespace Hypertext

/-- Something done to a canvas. -/
inductive Act where
  /-- An operation, its result, and the end tags of the elements open after it. -/
  | wrote (operation : Operation) (result : Except CanvasError Unit) (openTags : List String)
  | flushed (result : Except CanvasError Unit)
  /-- An identifier was taken. -/
  | issued (id : String)
  /-- An operation on the bindings. -/
  | bound (step : Scope.Step) (entry : Scope.Entry)
  /-- A fragment was written to a canvas of its own by these acts. -/
  | fragment (acts : List Act)

/-- The acts of performing operations in order until one fails. -/
def Canvas.acts {σ : Type} [Sink σ] : List Operation → Canvas σ → List Act
  | [], _ => []
  | operation :: operations, c =>
    match c.perform operation with
    | (c, .ok ()) => .wrote operation (.ok ()) c.openTags :: acts operations c
    | (c, .error e) => [.wrote operation (.error e) c.openTags]

end Hypertext
