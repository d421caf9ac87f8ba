import Hypertext.Proofs.Program.Requests

/-!
# Laws of runs

A `Canvas.Law` is a relation between a canvas, the acts done to it and the canvas after them that holds
of single requests and carries over to sequences. `Program.run_law` is the induction over programs, done
once: such a relation holds of every run.

* `Canvas.StepLaw`: the same without a word on fragments.
* `Program.Within`: the operations of a program, and its steps on the bindings, are of given kinds.
  Fragments are written to a canvas of their own and count for nothing here.
* `performAll_law`, `contextSteps_law`: the law of operations and of steps in a row.
-/

namespace Hypertext

mutual

/-- Whatever the answers, the program performs only operations and steps on the bindings of these kinds. -/
def Program.Within (writes : Operation → Prop) (binds : Scope.Step → Prop) : Program → Prop
  | .done _ => True
  | .snippet _ => ∀ text, writes (.text (some text) .noEscape)
  | .write operations next =>
    (∀ scope, ∀ operation ∈ operations scope, writes operation) ∧ ∀ r, (next r).Within writes binds
  | .writeWithId operations next =>
    (∀ id, ∀ operation ∈ operations id, writes operation) ∧ ∀ r, (next r).Within writes binds
  | .render component next => component.Within writes binds ∧ ∀ r, (next r).Within writes binds
  | .conditional _ body next => body.Within writes binds ∧ ∀ outcome, (next outcome).Within writes binds
  | .fragment _ next => ∀ r, (next r).Within writes binds
  | .flush next => ∀ r, (next r).Within writes binds
  | .nextId next => ∀ id, (next id).Within writes binds
  | .context steps next => (∀ step ∈ steps, binds step) ∧ ∀ answers, (next answers).Within writes binds
  | .inspect _ next => ∀ sight, (next sight).Within writes binds

/-- Whatever the answers, the region performs only operations of this kind, and so do its components. -/
def Region.Within (writes : Operation → Prop) (binds : Scope.Step → Prop) : Region → Prop
  | .leave _ _ => True
  | .write operations next =>
    (∀ operation ∈ operations, writes operation) ∧ ∀ r, (next r).Within writes binds
  | .render component next => component.Within writes binds ∧ ∀ r, (next r).Within writes binds
  | .conditional _ body next => body.Within writes binds ∧ ∀ outcome, (next outcome).Within writes binds

end

mutual

/-- Every program performs operations and steps of some kind. -/
theorem Program.within_all (p : Program) : p.Within (fun _ => True) (fun _ => True) := by
  cases p with
  | done result => exact trivial
  | snippet location => exact fun _ => trivial
  | write operations next => exact ⟨fun _ _ _ => trivial, fun r => (next r).within_all⟩
  | writeWithId operations next => exact ⟨fun _ _ _ => trivial, fun r => (next r).within_all⟩
  | render component next => exact ⟨component.within_all, fun r => (next r).within_all⟩
  | conditional condition body next => exact ⟨body.within_all, fun outcome => (next outcome).within_all⟩
  | fragment component next => exact fun r => (next r).within_all
  | flush next => exact fun r => (next r).within_all
  | nextId next => exact fun id => (next id).within_all
  | context steps next => exact ⟨fun _ _ => trivial, fun answers => (next answers).within_all⟩
  | inspect query next => exact fun sight => (next sight).within_all

theorem Region.within_all (body : Region) : body.Within (fun _ => True) (fun _ => True) := by
  cases body with
  | leave ending kept => exact trivial
  | write operations next => exact ⟨fun _ _ => trivial, fun r => (next r).within_all⟩
  | render component next => exact ⟨component.within_all, fun r => (next r).within_all⟩
  | conditional condition body next => exact ⟨body.within_all, fun outcome => (next outcome).within_all⟩

end

/-- The canvas after a step on its bindings. -/
def Canvas.bind {σ : Type} (c : Canvas σ) (step : Scope.Step) : Canvas σ :=
  let after := Scope.perform step c.context c.warnings
  { c with context := after.2.1, warnings := after.2.2 }

/-- The act of a step on the bindings of a canvas. -/
def Canvas.boundAct {σ : Type} (c : Canvas σ) (step : Scope.Step) : Act :=
  let after := Scope.perform step c.context c.warnings
  .bound step ⟨after.1, after.2.1.depth, after.2.2.count⟩

/-- A relation between a canvas, what is done to it and the canvas after that, which holds of single
requests of given kinds, fragments apart, and carries over to sequences of them. -/
structure Canvas.StepLaw (σ : Type) [Sink σ] (writes : Operation → Prop) (binds : Scope.Step → Prop)
    (R : Canvas σ → List Act → Canvas σ → Prop) : Prop where
  nothing : ∀ c, R c [] c
  trans : ∀ {c d e acts acts'}, R c acts d → R d acts' e → R c (acts ++ acts') e
  wrote : ∀ c operation, writes operation →
    R c [.wrote operation (c.perform operation).2 (c.perform operation).1.openTags]
      (c.perform operation).1
  flushed : ∀ c : Canvas σ, R c [.flushed c.flush.2] c.flush.1
  issued : ∀ c, R c [.issued c.nextId.1] c.nextId.2
  bound : ∀ c step, binds step → R c [c.boundAct step] (c.bind step)
  /-- A component is run in a frame of its own, which is dropped afterwards. -/
  rendered : ∀ {c d acts}, R c.enterFrame acts d → R c acts d.leaveFrame

/-- Such a relation that holds of fragments whatever is done on their canvases. -/
structure Canvas.Law (σ : Type) [Sink σ] (writes : Operation → Prop) (binds : Scope.Step → Prop)
    (R : Canvas σ → List Act → Canvas σ → Prop) : Prop extends Canvas.StepLaw σ writes binds R where
  /-- Of a fragment only the warnings reach the canvas. -/
  fragment : ∀ c acts w, R c [.fragment acts] { c with warnings := w }

section

variable {σ : Type} [Sink σ] {writes : Operation → Prop} {binds : Scope.Step → Prop}
  {R : Canvas σ → List Act → Canvas σ → Prop}

/-- The law of operations performed until one fails. -/
theorem performAll_law (hR : Canvas.StepLaw σ writes binds R) (operations : List Operation)
    (h : ∀ operation ∈ operations, writes operation) (c : Canvas σ) :
    R c (c.acts operations) (c.performAll operations).1 := by
  induction operations generalizing c with
  | nil => exact hR.nothing c
  | cons operation operations ih =>
    have hone := hR.wrote c operation (h operation List.mem_cons_self)
    have hrest := ih fun later hlater => h later (List.mem_cons_of_mem _ hlater)
    have hall : c.performAll (operation :: operations) =
      ((Canvas.perform operation).andThen (Canvas.performAll operations)) c := rfl
    rw [hall]
    unfold Canvas.acts Attempt.andThen
    generalize c.perform operation = after at hone
    obtain ⟨d, r⟩ := after
    -- what comes after a failure is not performed and leaves no act
    cases r with
    | ok u => exact hR.trans hone (hrest d)
    | error e => exact hone

/-- The law of steps on the bindings, which are all carried out. -/
theorem contextSteps_law (hR : Canvas.StepLaw σ writes binds R) (steps : List Scope.Step)
    (h : ∀ step ∈ steps, binds step) (c : Canvas σ) :
    R c (List.zipWith Act.bound steps (c.bindEntries steps)) (c.bindAll steps) := by
  induction steps generalizing c with
  | nil => exact hR.nothing c
  | cons step steps ih =>
    exact hR.trans (hR.bound c step (h step List.mem_cons_self))
      (ih (fun later hlater => h later (List.mem_cons_of_mem _ hlater)) (c.bind step))

mutual

/-- **A law holds of every run**: of the acts of a program and the canvas that it leaves. -/
theorem Program.run_law (world : World) (hR : Canvas.Law σ writes binds R) (p : Program)
    (hp : p.Within writes binds) (c : Canvas σ) : R c (p.run world c).acts (p.run world c).canvas := by
  cases p with
  | done result => exact hR.nothing c
  | snippet location =>
    unfold Program.run
    cases loadText world location with
    | ok text => exact hR.wrote c (.text (some text) .noEscape) (hp text)
    | error e => exact hR.nothing c
  | write operations next =>
    exact hR.trans (performAll_law hR.toStepLaw _ (hp.1 c.context) c) ((next _).run_law world hR (hp.2 _) _)
  | writeWithId operations next =>
    have hwritten := performAll_law hR.toStepLaw _ (hp.1 c.nextId.1) c.nextId.2
    exact hR.trans (hR.trans (hR.issued c) hwritten) ((next _).run_law world hR (hp.2 _) _)
  | render component next =>
    -- the component's own run starts one frame deeper
    have hinner := hR.rendered (component.run_law world hR hp.1 c.enterFrame)
    exact hR.trans hinner ((next _).run_law world hR (hp.2 _) _)
  | conditional condition body next =>
    cases condition with
    | true =>
      rw [run_written_region]
      exact hR.trans (body.pass_law world hR hp.1 c) ((next _).run_law world hR (hp.2 _) _)
    | false =>
      -- a skipped region does nothing to the canvas, so only what follows it counts
      rw [run_skipped_region]
      exact (next _).run_law world hR (hp.2 _) c
  | fragment component next =>
    exact hR.trans (hR.fragment c _ _) ((next _).run_law world hR (hp _) _)
  | flush next => exact hR.trans (hR.flushed c) ((next _).run_law world hR (hp _) _)
  | nextId next => exact hR.trans (hR.issued c) ((next _).run_law world hR (hp _) _)
  | context steps next =>
    exact hR.trans (contextSteps_law hR.toStepLaw steps hp.1 c) ((next _).run_law world hR (hp.2 _) _)
  | inspect query next => exact (next _).run_law world hR (hp _) c

/-- The same of a region that is written. -/
theorem Region.pass_law (world : World) (hR : Canvas.Law σ writes binds R) (body : Region)
    (hbody : body.Within writes binds) (c : Canvas σ) :
    R c (body.pass world c).acts (body.pass world c).canvas := by
  cases body with
  | leave ending kept => exact hR.nothing c
  | write operations next =>
    rw [pass_write]
    exact hR.trans (performAll_law hR.toStepLaw _ hbody.1 c) ((next _).pass_law world hR (hbody.2 _) _)
  | render component next =>
    have hinner := hR.rendered (component.run_law world hR hbody.1 c.enterFrame)
    exact hR.trans hinner ((next _).pass_law world hR (hbody.2 _) _)
  | conditional condition body next =>
    cases condition with
    | true =>
      rw [pass_written_region]
      exact hR.trans (body.pass_law world hR hbody.1 c) ((next _).pass_law world hR (hbody.2 _) _)
    | false =>
      rw [pass_skipped_region]
      exact (next _).pass_law world hR (hbody.2 _) c

end

end

end Hypertext
