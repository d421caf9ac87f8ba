import Hypertext.Canvas.Gate
import Hypertext.Program.Act
import Hypertext.Program.Basic
import Hypertext.Resource.Location

/-!
# Running programs

`Program.run` carries a program out on a canvas. It leaves the canvas, the program's result, a log
with one `Entry` for each request, and the acts that the canvas saw.

* A component runs in a frame of its own, which is dropped whatever the component's result.
* A fragment runs on an empty canvas that starts from the bindings; only its text and its warnings
  come back.
* `Region.through` takes a region through a gate, which writes it to the canvas or skips it.
* `Region.pass` is what a region leaves behind that goes through a gate that passes. `Region.skip` is what one leaves
  behind a gate that skips, told without a canvas: elements that would be open are counted, and a region inside is
  skipped as well.
-/

namespace Hypertext

/-- What a request answered. -/
inductive Remark where
  | result (r : Except CanvasError Unit)
  | dropped
  | aborted
  | fragment (r : Except CanvasError String)
  | id (text : String)
  | context (entries : List Scope.Entry)
  | sight (s : Sight)

/-- The answer that a region gives when it is left. -/
def Ending.remark (opened : Nat) : Ending → Remark
  | .complete => .result (Ending.complete.result opened)
  | .dropped => .dropped
  | .aborted _ => .aborted

/-- One request in the log of a run. -/
inductive Entry where
  /-- `depth` is the number of open elements after the request, `received` what the destination
  received during it unless it was skipped, `skipping` whether a region was skipped, and `inner`
  the log of the component or region. -/
  | mk (remark : Remark) (depth : Nat) (received : Option (List UInt8)) (skipping : Option Bool)
    (inner : Option (List Entry))

/-- What a run leaves behind. -/
structure Run (σ : Type) where
  canvas : Canvas σ
  result : Except CanvasError Unit
  log : List Entry
  /-- What was done to the canvas, in order. -/
  acts : List Act

/-- What a region leaves behind that was taken through a gate. -/
structure Gate.Run (σ : Type) where
  gate : Gate σ
  /-- How the region was left. -/
  ending : Ending
  /-- The results that the region kept. -/
  kept : List (Except CanvasError Unit)
  log : List Entry
  /-- What was done to the canvas, in order. -/
  acts : List Act

/-- What a region leaves behind that is written. -/
structure Region.Run (σ : Type) where
  canvas : Canvas σ
  /-- How the region was left. -/
  ending : Ending
  /-- The results that the region kept. -/
  kept : List (Except CanvasError Unit)
  log : List Entry
  /-- What was done to the canvas, in order. -/
  acts : List Act

/-- What a region leaves behind that is skipped. -/
structure Region.Skip where
  /-- The number of elements that would be open. -/
  depth : Nat
  /-- How the region was left. -/
  ending : Ending
  /-- The results that the region kept. -/
  kept : List (Except CanvasError Unit)
  log : List Entry

/-- The run with an entry in front of its log and acts in front of its acts. -/
def Run.after {σ : Type} (run : Run σ) (entry : Entry) (acts : List Act) : Run σ :=
  { run with log := entry :: run.log, acts := acts ++ run.acts }

/-- The run through a gate with an entry in front of its log and acts in front of its acts. -/
def Gate.Run.after {σ : Type} (run : Gate.Run σ) (entry : Entry) (acts : List Act) : Gate.Run σ :=
  { run with log := entry :: run.log, acts := acts ++ run.acts }

/-- The run of a region with an entry in front of its log and acts in front of its acts. -/
def Region.Run.after {σ : Type} (run : Region.Run σ) (entry : Entry) (acts : List Act) :
    Region.Run σ :=
  { run with log := entry :: run.log, acts := acts ++ run.acts }

/-- The skipped region with an entry in front of its log. -/
def Region.Skip.after (skip : Region.Skip) (entry : Entry) : Region.Skip :=
  { skip with log := entry :: skip.log }

/-- The entry of a request that took the canvas from `before` to `after`. -/
def Canvas.entry {σ : Type} [Sink σ] (before after : Canvas σ) (remark : Remark)
    (skipping : Option Bool) (inner : Option (List Entry)) : Entry :=
  .mk remark after.depth
    (some ((Sink.received after.sink).drop (Sink.received before.sink).length)) skipping inner

/-- The entry of a request that took the gate from `before` to `after`. -/
def Gate.entry {σ : Type} [Sink σ] (before after : Gate σ) (remark : Remark) (skipping : Option Bool)
    (inner : Option (List Entry)) : Entry :=
  match after with
  | .pass canvas => before.canvas.entry canvas remark skipping inner
  | .skip _ opened => .mk remark opened none skipping inner

/-- The acts of performing operations through a gate until one fails. -/
def Gate.acts {σ : Type} [Sink σ] (gate : Gate σ) (operations : List Operation) : List Act :=
  match gate with
  | .pass canvas => canvas.acts operations
  | .skip _ _ => []

/-- The region skipped, from a number of elements that would be open. -/
def Region.skip : Region → Nat → Region.Skip
  | .leave ending kept, depth => ⟨depth, ending, kept, []⟩
  | .write operations next, depth =>
    match Skipped.performAll operations depth with
    | (depth, r) => ((next r).skip depth).after (.mk (.result r) depth none none none)
  | .render _ next, depth =>
    ((next (.ok ())).skip depth).after (.mk (.result (.ok ())) depth none none (some []))
  | .conditional _ body next, depth =>
    match body.skip 0 with
    | ⟨opened, ending, kept, log⟩ =>
      ((next ⟨ending.result opened, kept⟩).skip depth).after
        (.mk (ending.remark opened) depth none (some true) (some log))

mutual

/-- The program run on a canvas. -/
def Program.run (world : World) {σ : Type} [Sink σ] (c : Canvas σ) : Program → Hypertext.Run σ
  | .done result => ⟨c, result, [], []⟩
  | .snippet location =>
    match loadText world location with
    | .ok text =>
      match c.text (some text) .noEscape with
      | (c', r) => ⟨c', r, [], [.wrote (.text (some text) .noEscape) r c'.openTags]⟩
    | .error e => ⟨c, .error (.resource e), [], []⟩
  | .write operations next =>
    match c.performAll (operations c.context) with
    | (c', r) =>
      ((next r).run world c').after (c.entry c' (.result r) none none)
        (c.acts (operations c.context))
  | .writeWithId operations next =>
    match c.nextId with
    | (id, issued) =>
      match issued.performAll (operations id) with
      | (c', r) =>
        ((next r).run world c').after (c.entry c' (.result r) none none)
          (.issued id :: issued.acts (operations id))
  | .render component next =>
    match component.run world c.enterFrame with
    | ⟨c', r, log, acts⟩ =>
      ((next r).run world c'.leaveFrame).after
        (c.entry c'.leaveFrame (.result r) none (some log)) acts
  | .conditional condition body next =>
    let gate := Gate.ofCondition c condition
    match body.through world gate with
    | ⟨left, ending, kept, log, acts⟩ =>
      ((next ⟨ending.result left.opened, kept⟩).run world left.canvas).after
        (c.entry left.canvas (ending.remark left.opened) (some gate.isSkipping) (some log)) acts
  | .fragment component next =>
    match component.run world c.fragment.enterFrame with
    | ⟨f, r, log, acts⟩ =>
      let c' := { c with warnings := f.warnings }
      let text := r.map fun _ => f.sink
      ((next text).run world c').after (c.entry c' (.fragment text) none (some log))
        [.fragment acts]
  | .flush next =>
    match c.flush with
    | (c', r) => ((next r).run world c').after (c.entry c' (.result r) none none) [.flushed r]
  | .nextId next =>
    match c.nextId with
    | (id, c') => ((next id).run world c').after (c.entry c' (.id id) none none) [.issued id]
  | .context steps next =>
    match Scope.performAll steps c.context c.warnings with
    | (entries, context, warnings) =>
      let c' := { c with context, warnings }
      ((next (entries.map (·.answer))).run world c').after
        (c.entry c' (.context entries) none none) (List.zipWith Act.bound steps entries)
  | .inspect query next =>
    ((next (c.look query)).run world c).after (c.entry c (.sight (c.look query)) none none) []

/-- The region taken through a gate. -/
def Region.through (world : World) {σ : Type} [Sink σ] (gate : Gate σ) : Region → Gate.Run σ
  | .leave ending kept => ⟨gate, ending, kept, [], []⟩
  | .write operations next =>
    match gate.performAll operations with
    | (gate', r) =>
      ((next r).through world gate').after (gate.entry gate' (.result r) none none) (gate.acts operations)
  | .render component next =>
    match gate with
    | .pass c =>
      match component.run world c.enterFrame with
      | ⟨c', r, log, acts⟩ =>
        ((next r).through world (.pass c'.leaveFrame)).after
          (c.entry c'.leaveFrame (.result r) none (some log)) acts
    | .skip c opened =>
      ((next (.ok ())).through world (.skip c opened)).after
        (.mk (.result (.ok ())) opened none none (some [])) []
  | .conditional condition body next =>
    let inner := gate.nested condition
    match body.through world inner with
    | ⟨left, ending, kept, log, acts⟩ =>
      let gate' := gate.resume left
      ((next ⟨ending.result left.opened, kept⟩).through world gate').after
        (gate.entry gate' (ending.remark left.opened) (some inner.isSkipping) (some log)) acts

end

/-- The region written to a canvas. -/
def Region.pass (world : World) {σ : Type} [Sink σ] (c : Canvas σ) (region : Region) : Region.Run σ :=
  match region.through world (.pass c) with
  | ⟨gate, ending, kept, log, acts⟩ => ⟨gate.canvas, ending, kept, log, acts⟩

end Hypertext
