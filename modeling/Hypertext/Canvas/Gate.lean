import Hypertext.Canvas.Operation

/-!
# Gates

A `Gate` stands between a conditional region and the canvas. It passes every operation on to the canvas, or skips them
and only counts what they would have opened and closed.

* `perform_pass`, `performAll_pass`: a gate that passes forwards to the canvas.
* `perform_skip`, `performAll_skip`: a gate that skips leaves the canvas alone.
* `nested` gives the gate of a region inside, and `resume` takes the canvas back from it.
-/

namespace Hypertext

/-- The way to a canvas inside a conditional region. -/
inductive Gate (σ : Type) where
  /-- The condition holds, and operations reach the canvas. -/
  | pass (canvas : Canvas σ)
  /-- The condition does not hold. `opened` elements would be open. -/
  | skip (canvas : Canvas σ) (opened : Nat)

namespace Gate

variable {σ : Type}

/-- The gate of a region with this condition. -/
def ofCondition (canvas : Canvas σ) : Bool → Gate σ
  | true => .pass canvas
  | false => .skip canvas 0

/-- Whether the gate skips what is written through it. -/
def isSkipping : Gate σ → Bool
  | .pass _ => false
  | .skip _ _ => true

/-- The canvas behind the gate. -/
def canvas : Gate σ → Canvas σ
  | .pass canvas => canvas
  | .skip canvas _ => canvas

/-- The number of elements that would be open. Those that were written are open on the canvas and not counted. -/
def opened : Gate σ → Nat
  | .pass _ => 0
  | .skip _ opened => opened

/-- The gate of a region inside. It skips if this one does, whatever the condition. -/
def nested (gate : Gate σ) (condition : Bool) : Gate σ :=
  match gate with
  | .pass canvas => ofCondition canvas condition
  | .skip canvas _ => .skip canvas 0

/-- The gate with the canvas as a region inside has left it. -/
def resume (gate inner : Gate σ) : Gate σ :=
  match gate with
  | .pass _ => .pass inner.canvas
  | .skip _ opened => .skip inner.canvas opened

section

variable [Sink σ]

/-- Carries out an operation on the canvas, or skips it. -/
def perform (operation : Operation) : Attempt CanvasError (Gate σ)
  | .pass canvas =>
    match canvas.perform operation with
    | (canvas, r) => (.pass canvas, r)
  | .skip canvas opened =>
    match Skipped.perform operation opened with
    | (opened, r) => (.skip canvas opened, r)

/-- Carries out operations in order until one fails. -/
def performAll (operations : List Operation) : Attempt CanvasError (Gate σ) :=
  Attempt.all (operations.map perform)

variable (canvas : Canvas σ) (opened : Nat)

theorem perform_pass (operation : Operation) :
    perform operation (.pass canvas) = (.pass (canvas.perform operation).1, (canvas.perform operation).2) := rfl

theorem perform_skip (operation : Operation) :
    perform operation (.skip canvas opened) =
      (.skip canvas (Skipped.perform operation opened).1, (Skipped.perform operation opened).2) := rfl

/-- **A gate that passes** forwards every operation to the canvas. -/
theorem performAll_pass (operations : List Operation) :
    performAll operations (.pass canvas) =
      (.pass (canvas.performAll operations).1, (canvas.performAll operations).2) :=
  Attempt.all_lift (fun c : Canvas σ => pass c) (fun operation c => perform_pass c operation) operations canvas

/-- **A gate that skips** counts, and leaves the canvas alone. -/
theorem performAll_skip (operations : List Operation) :
    performAll operations (.skip canvas opened) =
      (.skip canvas (Skipped.performAll operations opened).1, (Skipped.performAll operations opened).2) :=
  Attempt.all_lift (fun n => skip canvas n) (fun operation n => perform_skip canvas n operation) operations opened

end

end Gate

end Hypertext
