import Hypertext.Proofs.Program.Law

/-!
# Laws that reach into fragments

A `Canvas.Law` takes fragments as they come. A `Canvas.DeepLaw` is a relation on canvases over sinks of every
kind, and what it says of a fragment follows from what it says of the canvas on which the fragment is written.
`Program.run_deepLaw` is the induction over programs and their fragments.
-/

namespace Hypertext

/-- A relation between a canvas, what is done to it and the canvas after that, over every kind of sink. It holds of
single requests, carries over to sequences, and holds of a fragment when it holds of what is done on the fragment's
own canvas. -/
structure Canvas.DeepLaw (R : ∀ {σ : Type} [Sink σ], Canvas σ → List Act → Canvas σ → Prop) : Prop where
  steps : ∀ {σ : Type} [Sink σ], Canvas.StepLaw σ (fun _ => True) (fun _ => True) (R (σ := σ))
  /-- A fragment starts in a frame of its own and gives back its warnings. -/
  fragment : ∀ {σ : Type} [Sink σ] (c : Canvas σ) {acts : List Act} {f : Canvas String},
    R c.fragment.enterFrame acts f → R c [.fragment acts] { c with warnings := f.warnings }

variable {R : ∀ {σ : Type} [Sink σ], Canvas σ → List Act → Canvas σ → Prop}

mutual

/-- **A deep law holds of every run**, whatever the sink. -/
theorem Program.run_deepLaw (world : World) (hR : Canvas.DeepLaw R) {σ : Type} [Sink σ] (p : Program)
    (c : Canvas σ) : R c (p.run world c).acts (p.run world c).canvas := by
  have hsteps := hR.steps (σ := σ)
  cases p with
  | done result => exact hsteps.nothing c
  | snippet location =>
    unfold Program.run
    cases loadText world location with
    | ok text => exact hsteps.wrote c (.text (some text) .noEscape) trivial
    | error e => exact hsteps.nothing c
  | write operations next =>
    have hwritten := performAll_law hsteps (operations c.context) (fun _ _ => trivial) c
    exact hsteps.trans hwritten ((next _).run_deepLaw world hR _)
  | writeWithId operations next =>
    have hwritten := performAll_law hsteps (operations c.nextId.1) (fun _ _ => trivial) c.nextId.2
    exact hsteps.trans (hsteps.trans (hsteps.issued c) hwritten) ((next _).run_deepLaw world hR _)
  | render component next =>
    have hinner := hsteps.rendered (component.run_deepLaw world hR c.enterFrame)
    exact hsteps.trans hinner ((next _).run_deepLaw world hR _)
  | conditional condition body next =>
    cases condition with
    | true =>
      rw [run_written_region]
      exact hsteps.trans (body.pass_deepLaw world hR c) ((next _).run_deepLaw world hR _)
    | false =>
      rw [run_skipped_region]
      exact (next _).run_deepLaw world hR c
  | fragment component next =>
    -- here the sink is another one than that of the program
    have hinner := hR.fragment c (component.run_deepLaw world hR c.fragment.enterFrame)
    exact hsteps.trans hinner ((next _).run_deepLaw world hR _)
  | flush next => exact hsteps.trans (hsteps.flushed c) ((next _).run_deepLaw world hR _)
  | nextId next => exact hsteps.trans (hsteps.issued c) ((next _).run_deepLaw world hR _)
  | context steps next =>
    have hbound := contextSteps_law hsteps steps (fun _ _ => trivial) c
    exact hsteps.trans hbound ((next _).run_deepLaw world hR _)
  | inspect query next => exact (next _).run_deepLaw world hR c

/-- The same of a region that is written. -/
theorem Region.pass_deepLaw (world : World) (hR : Canvas.DeepLaw R) {σ : Type} [Sink σ] (body : Region)
    (c : Canvas σ) : R c (body.pass world c).acts (body.pass world c).canvas := by
  have hsteps := hR.steps (σ := σ)
  cases body with
  | leave ending kept => exact hsteps.nothing c
  | write operations next =>
    have hwritten := performAll_law hsteps operations (fun _ _ => trivial) c
    rw [pass_write]
    exact hsteps.trans hwritten ((next _).pass_deepLaw world hR _)
  | render component next =>
    have hinner := hsteps.rendered (component.run_deepLaw world hR c.enterFrame)
    exact hsteps.trans hinner ((next _).pass_deepLaw world hR _)
  | conditional condition body next =>
    cases condition with
    | true =>
      rw [pass_written_region]
      exact hsteps.trans (body.pass_deepLaw world hR c) ((next _).pass_deepLaw world hR _)
    | false =>
      rw [pass_skipped_region]
      exact (next _).pass_deepLaw world hR c

end

end Hypertext
