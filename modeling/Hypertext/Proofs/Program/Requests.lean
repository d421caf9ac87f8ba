import Hypertext.Program.Run

/-!
# Runs request by request

The run of a program or region that begins with a request is the run of what follows it on the canvas
that the request leaves, with one more entry in the log and with the acts of the request in front. Each
equation says so for one kind of request.

* `through_pass`, `through_skip`: a region taken through a gate is the region written to the canvas behind the
  gate, or the region skipped, which leaves that canvas alone.
-/

namespace Hypertext

variable {σ : Type} [Sink σ] (world : World) (c : Canvas σ)

/-- After an operation that succeeds the next ones are performed. -/
theorem performAll_cons_ok {operation : Operation} (operations : List Operation)
    (h : (c.perform operation).2 = .ok ()) :
    c.performAll (operation :: operations) = (c.perform operation).1.performAll operations ∧
      c.acts (operation :: operations) =
        .wrote operation (.ok ()) (c.perform operation).1.openTags ::
          (c.perform operation).1.acts operations := by
  have hall : c.performAll (operation :: operations) =
    ((Canvas.perform operation).andThen (Canvas.performAll operations)) c := rfl
  rw [hall, Canvas.acts, Attempt.andThen]
  generalize c.perform operation = after at h
  obtain ⟨d, r⟩ := after
  obtain rfl : r = .ok () := h
  exact ⟨rfl, rfl⟩

/-- An operation that fails is the last one. -/
theorem performAll_cons_error {operation : Operation} (operations : List Operation) {e : CanvasError}
    (h : (c.perform operation).2 = .error e) :
    c.performAll (operation :: operations) = c.perform operation ∧
      c.acts (operation :: operations) = [.wrote operation (.error e) (c.perform operation).1.openTags] := by
  have hall : c.performAll (operation :: operations) =
    ((Canvas.perform operation).andThen (Canvas.performAll operations)) c := rfl
  rw [hall, Canvas.acts, Attempt.andThen]
  generalize c.perform operation = after at h
  obtain ⟨d, r⟩ := after
  obtain rfl : r = .error e := h
  exact ⟨rfl, rfl⟩

theorem run_write (operations : Scope → List Operation) (next : Except CanvasError Unit → Program) :
    (Program.write operations next).run world c =
      ((next (c.performAll (operations c.context)).2).run world
          (c.performAll (operations c.context)).1).after
        (c.entry (c.performAll (operations c.context)).1
          (.result (c.performAll (operations c.context)).2) none none)
        (c.acts (operations c.context)) := rfl

theorem run_writeWithId (operations : String → List Operation)
    (next : Except CanvasError Unit → Program) :
    (Program.writeWithId operations next).run world c =
      ((next (c.nextId.2.performAll (operations c.nextId.1)).2).run world
          (c.nextId.2.performAll (operations c.nextId.1)).1).after
        (c.entry (c.nextId.2.performAll (operations c.nextId.1)).1
          (.result (c.nextId.2.performAll (operations c.nextId.1)).2) none none)
        (.issued c.nextId.1 :: c.nextId.2.acts (operations c.nextId.1)) := rfl

theorem run_render (component : Program) (next : Except CanvasError Unit → Program) :
    (Program.render component next).run world c =
      ((next (component.run world c.enterFrame).result).run world
          (component.run world c.enterFrame).canvas.leaveFrame).after
        (c.entry (component.run world c.enterFrame).canvas.leaveFrame
          (.result (component.run world c.enterFrame).result) none
          (some (component.run world c.enterFrame).log))
        (component.run world c.enterFrame).acts := rfl

/-- The canvas that has been told the warnings of a fragment. -/
def Canvas.afterFragment (fragment : Run String) : Canvas σ :=
  { c with warnings := fragment.canvas.warnings }

/-- What a fragment answers: its text, if it succeeded. -/
def Run.fragmentText (fragment : Run String) : Except CanvasError String :=
  fragment.result.map fun _ => fragment.canvas.sink

theorem run_fragment (component : Program) (next : Except CanvasError String → Program) :
    (Program.fragment component next).run world c =
      ((next (component.run world c.fragment.enterFrame).fragmentText).run world
          (c.afterFragment (component.run world c.fragment.enterFrame))).after
        (c.entry (c.afterFragment (component.run world c.fragment.enterFrame))
          (.fragment (component.run world c.fragment.enterFrame).fragmentText) none
          (some (component.run world c.fragment.enterFrame).log))
        [.fragment (component.run world c.fragment.enterFrame).acts] := rfl

theorem run_flush (next : Except CanvasError Unit → Program) :
    (Program.flush next).run world c =
      ((next c.flush.2).run world c.flush.1).after (c.entry c.flush.1 (.result c.flush.2) none none)
        [.flushed c.flush.2] := rfl

theorem run_nextId (next : String → Program) :
    (Program.nextId next).run world c =
      ((next c.nextId.1).run world c.nextId.2).after (c.entry c.nextId.2 (.id c.nextId.1) none none)
        [.issued c.nextId.1] := rfl

/-- The canvas after steps on its bindings. -/
def Canvas.bindAll {σ : Type} (c : Canvas σ) (steps : List Scope.Step) : Canvas σ :=
  { c with context := (Scope.performAll steps c.context c.warnings).2.1
           warnings := (Scope.performAll steps c.context c.warnings).2.2 }

/-- What steps on the bindings of a canvas leave behind. -/
def Canvas.bindEntries {σ : Type} (c : Canvas σ) (steps : List Scope.Step) : List Scope.Entry :=
  (Scope.performAll steps c.context c.warnings).1

theorem run_context (steps : List Scope.Step) (next : List Answer → Program) :
    (Program.context steps next).run world c =
      ((next ((c.bindEntries steps).map (·.answer))).run world (c.bindAll steps)).after
        (c.entry (c.bindAll steps) (.context (c.bindEntries steps)) none none)
        (List.zipWith Act.bound steps (c.bindEntries steps)) := rfl

theorem run_inspect (query : Query) (next : Sight → Program) :
    (Program.inspect query next).run world c =
      ((next (c.look query)).run world c).after (c.entry c (.sight (c.look query)) none none) [] := rfl

section Through

variable (gate : Gate σ)

theorem through_write (operations : List Operation) (next : Except CanvasError Unit → Region) :
    (Region.write operations next).through world gate =
      ((next (gate.performAll operations).2).through world (gate.performAll operations).1).after
        (gate.entry (gate.performAll operations).1 (.result (gate.performAll operations).2) none none)
        (gate.acts operations) := rfl

theorem through_render_pass (component : Program) (next : Except CanvasError Unit → Region) :
    (Region.render component next).through world (.pass c) =
      ((next (component.run world c.enterFrame).result).through world
          (.pass (component.run world c.enterFrame).canvas.leaveFrame)).after
        (c.entry (component.run world c.enterFrame).canvas.leaveFrame
          (.result (component.run world c.enterFrame).result) none
          (some (component.run world c.enterFrame).log))
        (component.run world c.enterFrame).acts := rfl

theorem through_render_skip (opened : Nat) (component : Program) (next : Except CanvasError Unit → Region) :
    (Region.render component next).through world (.skip c opened) =
      ((next (.ok ())).through world (.skip c opened)).after
        (.mk (.result (.ok ())) opened none none (some [])) [] := rfl

theorem through_region (condition : Bool) (body : Region) (next : Outcome → Region) :
    (Region.conditional condition body next).through world gate =
      ((next ⟨(body.through world (gate.nested condition)).ending.result
            (body.through world (gate.nested condition)).gate.opened,
          (body.through world (gate.nested condition)).kept⟩).through world
          (gate.resume (body.through world (gate.nested condition)).gate)).after
        (gate.entry (gate.resume (body.through world (gate.nested condition)).gate)
          ((body.through world (gate.nested condition)).ending.remark
            (body.through world (gate.nested condition)).gate.opened)
          (some (gate.nested condition).isSkipping) (some (body.through world (gate.nested condition)).log))
        (body.through world (gate.nested condition)).acts := rfl

end Through

/-- **A region through a gate that skips** is the region skipped. The gate counts what it would have opened, and the
canvas behind it is the one before. -/
theorem through_skip : ∀ (region : Region) (opened : Nat),
    region.through world (.skip c opened) =
      ⟨.skip c (region.skip opened).depth, (region.skip opened).ending, (region.skip opened).kept,
        (region.skip opened).log, []⟩
  | .leave _ _, _ => rfl
  | .write operations next, opened => by
    rw [through_write, Gate.performAll_skip, through_skip (next _) _]
    rfl
  | .render _ next, opened => by
    rw [through_render_skip, through_skip (next _) _]
    rfl
  | .conditional condition body next, opened => by
    have hnested : (Gate.skip c opened).nested condition = .skip c 0 := rfl
    rw [through_region, hnested, through_skip body 0]
    exact congrArg (Gate.Run.after · _ _) (through_skip (next _) opened)

/-- What a region leaves behind that is written, as it is left behind through a gate that passes. -/
def Region.Run.passed {σ : Type} (run : Region.Run σ) : Gate.Run σ :=
  ⟨.pass run.canvas, run.ending, run.kept, run.log, run.acts⟩

/-- A gate that passes does so to the end of the region. -/
theorem gate_through_pass : ∀ (region : Region) (c : Canvas σ),
    ∃ d, (region.through world (.pass c)).gate = .pass d
  | .leave _ _, c => ⟨c, rfl⟩
  | .write operations next, c => by
    rw [through_write, Gate.performAll_pass]
    exact gate_through_pass (next _) _
  | .render _ next, c => by
    rw [through_render_pass]
    exact gate_through_pass (next _) _
  | .conditional condition body next, c => by
    rw [through_region]
    exact gate_through_pass (next _) _

/-- **A region through a gate that passes** is the region written to the canvas behind it. -/
theorem through_pass (region : Region) : region.through world (.pass c) = (region.pass world c).passed := by
  obtain ⟨d, hd⟩ := gate_through_pass world region c
  have hpass : region.pass world c =
    ⟨(region.through world (.pass c)).gate.canvas, (region.through world (.pass c)).ending,
      (region.through world (.pass c)).kept, (region.through world (.pass c)).log,
      (region.through world (.pass c)).acts⟩ := rfl
  rw [hpass]
  generalize region.through world (.pass c) = run at hd
  obtain ⟨gate, ending, kept, log, acts⟩ := run
  obtain rfl : gate = .pass d := hd
  rfl

theorem run_region (condition : Bool) (body : Region) (next : Outcome → Program) :
    (Program.conditional condition body next).run world c =
      ((next ⟨(body.through world (.ofCondition c condition)).ending.result
            (body.through world (.ofCondition c condition)).gate.opened,
          (body.through world (.ofCondition c condition)).kept⟩).run world
          (body.through world (.ofCondition c condition)).gate.canvas).after
        (c.entry (body.through world (.ofCondition c condition)).gate.canvas
          ((body.through world (.ofCondition c condition)).ending.remark
            (body.through world (.ofCondition c condition)).gate.opened)
          (some (Gate.ofCondition c condition).isSkipping)
          (some (body.through world (.ofCondition c condition)).log))
        (body.through world (.ofCondition c condition)).acts := rfl

theorem run_written_region (body : Region) (next : Outcome → Program) :
    (Program.conditional true body next).run world c =
      ((next ⟨(body.pass world c).ending.result 0, (body.pass world c).kept⟩).run world
          (body.pass world c).canvas).after
        (c.entry (body.pass world c).canvas ((body.pass world c).ending.remark 0) (some false)
          (some (body.pass world c).log))
        (body.pass world c).acts := by
  have hgate : Gate.ofCondition c true = .pass c := rfl
  rw [run_region, hgate, through_pass]
  rfl

theorem run_skipped_region (body : Region) (next : Outcome → Program) :
    (Program.conditional false body next).run world c =
      ((next ⟨(body.skip 0).ending.result (body.skip 0).depth, (body.skip 0).kept⟩).run world c).after
        (c.entry c ((body.skip 0).ending.remark (body.skip 0).depth) (some true)
          (some (body.skip 0).log)) [] := by
  have hgate : Gate.ofCondition c false = .skip c 0 := rfl
  rw [run_region, hgate, through_skip]
  rfl

theorem pass_write (operations : List Operation) (next : Except CanvasError Unit → Region) :
    (Region.write operations next).pass world c =
      ((next (c.performAll operations).2).pass world (c.performAll operations).1).after
        (c.entry (c.performAll operations).1 (.result (c.performAll operations).2) none none)
        (c.acts operations) := by
  rw [Region.pass, through_write, Gate.performAll_pass]
  rfl

theorem pass_render (component : Program) (next : Except CanvasError Unit → Region) :
    (Region.render component next).pass world c =
      ((next (component.run world c.enterFrame).result).pass world
          (component.run world c.enterFrame).canvas.leaveFrame).after
        (c.entry (component.run world c.enterFrame).canvas.leaveFrame
          (.result (component.run world c.enterFrame).result) none
          (some (component.run world c.enterFrame).log))
        (component.run world c.enterFrame).acts := rfl

theorem pass_written_region (body : Region) (next : Outcome → Region) :
    (Region.conditional true body next).pass world c =
      ((next ⟨(body.pass world c).ending.result 0, (body.pass world c).kept⟩).pass world
          (body.pass world c).canvas).after
        (c.entry (body.pass world c).canvas ((body.pass world c).ending.remark 0) (some false)
          (some (body.pass world c).log))
        (body.pass world c).acts := by
  have hgate : (Gate.pass c).nested true = .pass c := rfl
  rw [Region.pass, through_region, hgate, through_pass]
  rfl

theorem pass_skipped_region (body : Region) (next : Outcome → Region) :
    (Region.conditional false body next).pass world c =
      ((next ⟨(body.skip 0).ending.result (body.skip 0).depth, (body.skip 0).kept⟩).pass world c).after
        (c.entry c ((body.skip 0).ending.remark (body.skip 0).depth) (some true)
          (some (body.skip 0).log)) [] := by
  have hgate : (Gate.pass c).nested false = .skip c 0 := rfl
  rw [Region.pass, through_region, hgate, through_skip]
  rfl

end Hypertext
