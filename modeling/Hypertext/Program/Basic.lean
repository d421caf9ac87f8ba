import Hypertext.Canvas.Operation
import Hypertext.Context.Step

/-!
# Programs

A `Program` is what a component does with a canvas: a tree of requests in which every next request
may depend on the answers so far, ending with the component's own result.

* Inside a `Region`, which is written or skipped as a condition says, only markup can be written. What
  follows a region learns its `Outcome`: its result and the results that it kept of its requests.
* `Program.ofSteps` and `Region.ofSteps` put steps in a row that ignore each other's results, or
  that stop at the first failure.
-/

namespace Hypertext

/-- How a region is left. -/
inductive Ending where
  /-- At its end, where a skipped region is checked for balance. -/
  | complete
  /-- Before its end, without a check. -/
  | dropped
  /-- By a failure. -/
  | aborted (cause : CanvasError)
deriving DecidableEq, Repr

/-- The result of a region that is left with this many elements of its own open. -/
def Ending.result (opened : Nat) : Ending → Except CanvasError Unit
  | .complete => if opened = 0 then .ok () else .error (.unbalancedRegion opened)
  | .dropped => .ok ()
  | .aborted cause => .error cause

/-- What a region tells to what follows it. -/
structure Outcome where
  /-- The result of leaving the region. -/
  result : Except CanvasError Unit
  /-- The results of requests that the region has kept. -/
  kept : List (Except CanvasError Unit)

/-- A question about a canvas. -/
inductive Query where
  | pending
  | balanced
  | output
  | config
  | hasWarned (component message : String)
deriving DecidableEq, Repr

/-- What a canvas shows of itself. -/
inductive Sight where
  /-- The end tags of the open elements, innermost first. -/
  | pending (endTags : List String)
  | balanced (b : Bool)
  | output (text : Option String)
  | config (config : Config)
  | hasWarned (b : Bool)

/-- The answer to a question about a canvas. -/
def Canvas.look {σ : Type} [Sink σ] (c : Canvas σ) : Query → Sight
  | .pending => .pending c.openTags
  | .balanced => .balanced c.isBalanced
  | .output => .output c.output
  | .config => .config c.config
  | .hasWarned component message => .hasWarned (c.warnings.has component message)

mutual

/-- What a component does with a canvas. -/
inductive Program where
  /-- Ends with this result. -/
  | done (result : Except CanvasError Unit)
  /-- Writes the text behind a location as it is, and ends. -/
  | snippet (location : String)
  /-- Performs operations, which may depend on the bindings, until one fails. -/
  | write (operations : Scope → List Operation) (next : Except CanvasError Unit → Program)
  /-- Performs operations built from a fresh identifier until one fails. -/
  | writeWithId (operations : String → List Operation) (next : Except CanvasError Unit → Program)
  /-- Runs a component in a frame of its own. -/
  | render (component : Program) (next : Except CanvasError Unit → Program)
  /-- Writes a region if the condition holds and skips it otherwise. -/
  | conditional (condition : Bool) (body : Region) (next : Outcome → Program)
  /-- Renders a component on a canvas of its own and takes the text. -/
  | fragment (component : Program) (next : Except CanvasError String → Program)
  /-- Flushes the sink. -/
  | flush (next : Except CanvasError Unit → Program)
  /-- Takes a fresh identifier. -/
  | nextId (next : String → Program)
  /-- Performs operations on the bindings. -/
  | context (steps : List Scope.Step) (next : List Answer → Program)
  /-- Looks at the canvas. -/
  | inspect (query : Query) (next : Sight → Program)

/-- What is written inside a conditional region. -/
inductive Region where
  /-- Leaves the region with the results that it has kept. -/
  | leave (ending : Ending) (kept : List (Except CanvasError Unit) := [])
  /-- Performs operations until one fails. -/
  | write (operations : List Operation) (next : Except CanvasError Unit → Region)
  /-- Runs a component in a frame of its own, unless the region is skipped. -/
  | render (component : Program) (next : Except CanvasError Unit → Region)
  /-- Writes a region if this one is written and the condition holds, and skips it otherwise. -/
  | conditional (condition : Bool) (body : Region) (next : Outcome → Region)

end

/-- A conditional region of which only the result counts. -/
def Program.region (condition : Bool) (body : Region) (next : Except CanvasError Unit → Program) :
    Program :=
  .conditional condition body fun outcome => next outcome.result

/-- A nested conditional region of which only the result counts. -/
def Region.region (condition : Bool) (body : Region) (next : Except CanvasError Unit → Region) :
    Region :=
  .conditional condition body fun outcome => next outcome.result

/-- A step that is still to be told how to go on. -/
abbrev Program.Step := (Except CanvasError Unit → Program) → Program

/-- A step inside a region that is still to be told how to go on. -/
abbrev Region.Step := (Except CanvasError Unit → Region) → Region

/-- The steps in order. With `stop` the first failure ends the program with it; without, the
program always ends in success. -/
def Program.ofSteps (stop : Bool) : List Program.Step → Program
  | [] => .done (.ok ())
  | step :: steps => step fun
    | .ok () => ofSteps stop steps
    | .error e => if stop then .done (.error e) else ofSteps stop steps

/-- The steps in order, then the ending. With `stop` the first failure aborts the region. -/
def Region.ofSteps (stop : Bool) (ending : Ending) : List Region.Step → Region
  | [] => .leave ending
  | step :: steps => step fun
    | .ok () => ofSteps stop ending steps
    | .error e => if stop then .leave (.aborted e) else ofSteps stop ending steps

end Hypertext
