import Hypertext.Proofs.Program.Requests

/-!
# Compiling regions away

A conditional region can be replaced by its body where it is written and by nothing where it is skipped.

* `Program.withoutRegions`: the program without its regions. What follows a skipped region is told the
  same as before, which is fixed, since skipping looks at no canvas.
* `Entry.outside`: what a log says outside of skipped regions, the log of a written region in its place.
* `Program.run_withoutRegions`: without its regions any program leaves the same canvas, the same result
  and the same acts, and the same log apart from the regions.
* `Script`: steps in a row, each of them performed whatever came of the earlier ones.
* `regions_compile_away`: taking the regions out of a script, step by step in place, changes nothing but
  the log's nesting.
-/

namespace Hypertext

mutual

/-- The program with written regions in place and skipped regions left out. -/
def Program.withoutRegions : Program → Program
  | .done result => .done result
  | .snippet location => .snippet location
  | .write operations next => .write operations fun r => (next r).withoutRegions
  | .writeWithId operations next => .writeWithId operations fun r => (next r).withoutRegions
  | .render component next => .render component.withoutRegions fun r => (next r).withoutRegions
  | .conditional true body next =>
    body.inline fun ending kept => (next ⟨ending.result 0, kept⟩).withoutRegions
  | .conditional false body next =>
    (next ⟨(body.skip 0).ending.result (body.skip 0).depth, (body.skip 0).kept⟩).withoutRegions
  | .fragment component next => .fragment component.withoutRegions fun r => (next r).withoutRegions
  | .flush next => .flush fun r => (next r).withoutRegions
  | .nextId next => .nextId fun id => (next id).withoutRegions
  | .context steps next => .context steps fun answers => (next answers).withoutRegions
  | .inspect query next => .inspect query fun sight => (next sight).withoutRegions

/-- The requests of a written region as a program, and what comes after it. -/
def Region.inline (rest : Ending → List (Except CanvasError Unit) → Program) : Region → Program
  | .leave ending kept => rest ending kept
  | .write operations next => .write (fun _ => operations) fun r => (next r).inline rest
  | .render component next => .render component.withoutRegions fun r => (next r).inline rest
  | .conditional true body next =>
    body.inline fun ending kept => (next ⟨ending.result 0, kept⟩).inline rest
  | .conditional false body next =>
    (next ⟨(body.skip 0).ending.result (body.skip 0).depth, (body.skip 0).kept⟩).inline rest

end

/-- No region is left in the program, whatever the answers. -/
def Program.RegionFree : Program → Prop
  | .done _ => True
  | .snippet _ => True
  | .write _ next => ∀ r, (next r).RegionFree
  | .writeWithId _ next => ∀ r, (next r).RegionFree
  | .render component next => component.RegionFree ∧ ∀ r, (next r).RegionFree
  | .conditional _ _ _ => False
  | .fragment component next => component.RegionFree ∧ ∀ r, (next r).RegionFree
  | .flush next => ∀ r, (next r).RegionFree
  | .nextId next => ∀ id, (next id).RegionFree
  | .context _ next => ∀ answers, (next answers).RegionFree
  | .inspect _ next => ∀ sight, (next sight).RegionFree

mutual

/-- What the entry says outside of skipped regions: that of a written region gives way to its log. -/
def Entry.outside : Entry → List Entry
  | .mk _ _ _ (some true) _ => []
  | .mk _ _ _ (some false) inner => (Entry.outsideInner inner).getD []
  | .mk remark depth received none inner => [.mk remark depth received none (Entry.outsideInner inner)]

/-- What an inner log, if there is one, says outside of skipped regions. -/
def Entry.outsideInner : Option (List Entry) → Option (List Entry)
  | none => none
  | some entries => some (Entry.outsideAll entries)

/-- What a log says outside of skipped regions. -/
def Entry.outsideAll : List Entry → List Entry
  | [] => []
  | entry :: entries => entry.outside ++ Entry.outsideAll entries

end

/-- The run with the log that it would have without its regions. -/
def Run.outside {σ : Type} (run : Run σ) : Run σ :=
  { run with log := Entry.outsideAll run.log }

/-- The run of a region in place and what comes after it. -/
def Region.Run.followedBy {σ : Type} (region : Region.Run σ) (run : Hypertext.Run σ) : Hypertext.Run σ :=
  { run with log := Entry.outsideAll region.log ++ run.log, acts := region.acts ++ run.acts }

mutual

theorem Program.withoutRegions_regionFree (p : Program) : p.withoutRegions.RegionFree := by
  cases p with
  | done result => exact trivial
  | snippet location => exact trivial
  | write operations next => exact fun r => (next r).withoutRegions_regionFree
  | writeWithId operations next => exact fun r => (next r).withoutRegions_regionFree
  | render component next =>
    exact ⟨component.withoutRegions_regionFree, fun r => (next r).withoutRegions_regionFree⟩
  | conditional condition body next =>
    cases condition with
    | true => exact body.inline_regionFree _ fun _ _ => (next _).withoutRegions_regionFree
    | false => exact (next _).withoutRegions_regionFree
  | fragment component next =>
    exact ⟨component.withoutRegions_regionFree, fun r => (next r).withoutRegions_regionFree⟩
  | flush next => exact fun r => (next r).withoutRegions_regionFree
  | nextId next => exact fun id => (next id).withoutRegions_regionFree
  | context steps next => exact fun answers => (next answers).withoutRegions_regionFree
  | inspect query next => exact fun sight => (next sight).withoutRegions_regionFree

theorem Region.inline_regionFree (body : Region)
    (rest : Ending → List (Except CanvasError Unit) → Program)
    (hrest : ∀ ending kept, (rest ending kept).RegionFree) : (body.inline rest).RegionFree := by
  cases body with
  | leave ending kept => exact hrest ending kept
  | write operations next => exact fun r => (next r).inline_regionFree rest hrest
  | render component next =>
    exact ⟨component.withoutRegions_regionFree, fun r => (next r).inline_regionFree rest hrest⟩
  | conditional condition body next =>
    cases condition with
    | true => exact body.inline_regionFree _ fun _ _ => (next _).inline_regionFree rest hrest
    | false => exact (next _).inline_regionFree rest hrest

end

section

variable {σ : Type} [Sink σ]

/-- A request that is no region stays in the log. -/
theorem Run.outside_after (run : Hypertext.Run σ) (c d : Canvas σ) (remark : Remark)
    (inner : Option (List Entry)) (acts : List Act) :
    (run.after (c.entry d remark none inner) acts).outside =
      run.outside.after (c.entry d remark none (Entry.outsideInner inner)) acts := rfl

/-- The same of a request in a region that is written in place. -/
theorem followedBy_after (region : Region.Run σ) (run : Run σ) (c d : Canvas σ) (remark : Remark)
    (inner : Option (List Entry)) (acts : List Act) :
    (region.after (c.entry d remark none inner) acts).followedBy run =
      (region.followedBy run).after (c.entry d remark none (Entry.outsideInner inner)) acts := by
  unfold Region.Run.after Region.Run.followedBy Run.after
  rw [List.append_assoc]
  rfl

/-- A region that is written gives way to its log. -/
theorem outside_after_written (region : Region.Run σ) (run : Run σ) (c d : Canvas σ) (remark : Remark) :
    (run.after (c.entry d remark (some false) (some region.log)) region.acts).outside =
      region.followedBy run.outside := rfl

/-- A skipped region leaves nothing. -/
theorem outside_after_skipped (run : Run σ) (c d : Canvas σ) (remark : Remark)
    (inner : Option (List Entry)) :
    (run.after (c.entry d remark (some true) inner) []).outside = run.outside := rfl

/-- The same of a region within one that is written in place. -/
theorem followedBy_after_written (region next : Region.Run σ) (run : Run σ) (c d : Canvas σ)
    (remark : Remark) :
    (next.after (c.entry d remark (some false) (some region.log)) region.acts).followedBy run =
      region.followedBy (next.followedBy run) := by
  have houtside : (c.entry d remark (some false) (some region.log)).outside =
    Entry.outsideAll region.log := rfl
  have hcons : Entry.outsideAll (c.entry d remark (some false) (some region.log) :: next.log) =
    (c.entry d remark (some false) (some region.log)).outside ++ Entry.outsideAll next.log := rfl
  unfold Region.Run.after Region.Run.followedBy
  dsimp only
  rw [hcons, houtside, List.append_assoc, List.append_assoc]

/-- A skipped region within one that is written leaves nothing. -/
theorem followedBy_after_skipped (region : Region.Run σ) (run : Run σ) (c d : Canvas σ)
    (remark : Remark) (inner : Option (List Entry)) :
    (region.after (c.entry d remark (some true) inner) []).followedBy run = region.followedBy run := rfl

end

mutual

/-- **Regions can be compiled away.** Without its regions every program leaves the same canvas, result
and acts, and the log that it had outside of skipped regions. -/
theorem Program.run_withoutRegions (world : World) {σ : Type} [Sink σ] (p : Program) (c : Canvas σ) :
    p.withoutRegions.run world c = (p.run world c).outside := by
  cases p with
  | done result => rfl
  | snippet location =>
    unfold Program.withoutRegions Program.run
    cases loadText world location <;> rfl
  | write operations next =>
    rw [Program.withoutRegions, run_write, run_write, Run.outside_after,
      (next _).run_withoutRegions world]
    rfl
  | writeWithId operations next =>
    rw [Program.withoutRegions, run_writeWithId, run_writeWithId, Run.outside_after,
      (next _).run_withoutRegions world]
    rfl
  | render component next =>
    rw [Program.withoutRegions, run_render, run_render, Run.outside_after,
      component.run_withoutRegions world, (next _).run_withoutRegions world]
    rfl
  | conditional condition body next =>
    cases condition with
    -- the region's entry gives way to its log, which the program without regions leaves directly
    | true =>
      rw [Program.withoutRegions, body.run_inline world, run_written_region, outside_after_written,
        (next _).run_withoutRegions world]
    | false =>
      rw [Program.withoutRegions, run_skipped_region, outside_after_skipped,
        (next _).run_withoutRegions world]
  | fragment component next =>
    rw [Program.withoutRegions, run_fragment, run_fragment, Run.outside_after,
      component.run_withoutRegions world, (next _).run_withoutRegions world]
    rfl
  | flush next =>
    rw [Program.withoutRegions, run_flush, run_flush, Run.outside_after,
      (next _).run_withoutRegions world]
    rfl
  | nextId next =>
    rw [Program.withoutRegions, run_nextId, run_nextId, Run.outside_after,
      (next _).run_withoutRegions world]
    rfl
  | context steps next =>
    rw [Program.withoutRegions, run_context, run_context, Run.outside_after,
      (next _).run_withoutRegions world]
    rfl
  | inspect query next =>
    rw [Program.withoutRegions, run_inspect, run_inspect, Run.outside_after,
      (next _).run_withoutRegions world]
    rfl

/-- A written region in place runs as the region does, and then as what comes after it. -/
theorem Region.run_inline (world : World) {σ : Type} [Sink σ] (body : Region)
    (rest : Ending → List (Except CanvasError Unit) → Program) (c : Canvas σ) :
    (body.inline rest).run world c =
      (body.pass world c).followedBy
        ((rest (body.pass world c).ending (body.pass world c).kept).run world
          (body.pass world c).canvas) := by
  cases body with
  | leave ending kept => rfl
  | write operations next =>
    rw [Region.inline, run_write, pass_write, followedBy_after, (next _).run_inline world rest]
    rfl
  | render component next =>
    rw [Region.inline, run_render, pass_render, followedBy_after, (next _).run_inline world rest,
      component.run_withoutRegions world]
    rfl
  | conditional condition body next =>
    cases condition with
    | true =>
      rw [Region.inline, body.run_inline world, pass_written_region, followedBy_after_written,
        (next _).run_inline world rest]
      rfl
    | false =>
      rw [Region.inline, pass_skipped_region, followedBy_after_skipped,
        (next _).run_inline world rest]
      rfl

end

/-- Steps in a row. Each is performed whatever came of the earlier ones, and a component's own result is
a verdict on the results of its steps outside of skipped regions. -/
inductive Script where
  | stop
  /-- Performs operations until one fails. -/
  | write (operations : List Operation) (rest : Script)
  /-- Runs a component in a frame of its own. -/
  | render (component : Script)
    (verdict : List (Except CanvasError Unit) → Except CanvasError Unit) (rest : Script)
  /-- Writes a region if the condition holds and skips it otherwise. -/
  | conditional (condition : Bool) (body : Script) (ending : Ending) (rest : Script)

namespace Script

mutual

/-- The program of the steps, which goes on with their results outside of skipped regions. -/
def program (k : List (Except CanvasError Unit) → Program) : Script → Program
  | .stop => k []
  | .write operations rest => .write (fun _ => operations) fun r => rest.program fun rs => k (r :: rs)
  | .render component verdict rest =>
    .render (component.program fun rs => .done (verdict rs)) fun r => rest.program fun rs => k (r :: rs)
  | .conditional condition body ending rest =>
    .conditional condition (body.region fun rs => .leave ending rs) fun outcome =>
      rest.program fun rs => k ((if condition then outcome.kept else []) ++ rs)

/-- The steps inside a region. -/
def region (k : List (Except CanvasError Unit) → Region) : Script → Region
  | .stop => k []
  | .write operations rest => .write operations fun r => rest.region fun rs => k (r :: rs)
  | .render component verdict rest =>
    .render (component.program fun rs => .done (verdict rs)) fun r => rest.region fun rs => k (r :: rs)
  | .conditional condition body ending rest =>
    .conditional condition (body.region fun rs => .leave ending rs) fun outcome =>
      rest.region fun rs => k ((if condition then outcome.kept else []) ++ rs)

end

/-- The steps as a component with a verdict of its own. -/
def component (script : Script) (verdict : List (Except CanvasError Unit) → Except CanvasError Unit) :
    Program :=
  script.program fun rs => .done (verdict rs)

/-- The steps of one script and then those of another. -/
def append : Script → Script → Script
  | .stop, script' => script'
  | .write operations rest, script' => .write operations (rest.append script')
  | .render component verdict rest, script' => .render component verdict (rest.append script')
  | .conditional condition body ending rest, script' =>
    .conditional condition body ending (rest.append script')

/-- The script with the steps of written regions in place and skipped regions left out. -/
def withoutRegions : Script → Script
  | .stop => .stop
  | .write operations rest => .write operations rest.withoutRegions
  | .render component verdict rest => .render component.withoutRegions verdict rest.withoutRegions
  | .conditional true body _ rest => body.withoutRegions.append rest.withoutRegions
  | .conditional false _ _ rest => rest.withoutRegions

/-- No region is left in the script. -/
def RegionFree : Script → Prop
  | .stop => True
  | .write _ rest => rest.RegionFree
  | .render component _ rest => component.RegionFree ∧ rest.RegionFree
  | .conditional _ _ _ _ => False

theorem regionFree_append {script' : Script} (h' : script'.RegionFree) (script : Script)
    (h : script.RegionFree) : (script.append script').RegionFree := by
  induction script with
  | stop => exact h'
  | write operations rest ih => exact ih h
  | render component verdict rest _ ih => exact ⟨h.1, ih h.2⟩
  | conditional => exact h.elim

theorem withoutRegions_regionFree (script : Script) : script.withoutRegions.RegionFree := by
  induction script with
  | stop => exact trivial
  | write operations rest ih => exact ih
  | render component verdict rest hcomponent ih => exact ⟨hcomponent, ih⟩
  | conditional condition body ending rest hbody ih =>
    cases condition with
    | true => exact regionFree_append ih _ hbody
    | false => exact ih

/-- One script after the other hands on the results of both. -/
theorem program_append (script script' : Script) (k : List (Except CanvasError Unit) → Program) :
    (script.append script').program k =
      script.program fun rs => script'.program fun rs' => k (rs ++ rs') := by
  induction script generalizing k with
  | stop => rfl
  | write operations rest ih =>
    rw [append, program, program]
    congr 1
    funext r
    exact ih _
  | render component verdict rest _ ih =>
    rw [append, program, program]
    congr 1
    funext r
    exact ih _
  | conditional condition body ending rest _ ih =>
    rw [append, program, program]
    congr 1
    funext outcome
    rw [ih]
    simp only [List.append_assoc]

/-- **Taking the regions out of a script takes them out of its program**, and a region of the script in
place is the program of its steps. -/
theorem withoutRegions_program (script : Script) :
    (∀ k, (script.program k).withoutRegions =
      script.withoutRegions.program fun rs => (k rs).withoutRegions) ∧
    (∀ k rest, (script.region k).inline rest =
      script.withoutRegions.program fun rs => (k rs).inline rest) := by
  induction script with
  | stop => exact ⟨fun _ => rfl, fun _ _ => rfl⟩
  | write operations rest ih =>
    constructor
    · intro k
      rw [program, Program.withoutRegions, withoutRegions, program]
      congr 1
      funext r
      exact ih.1 _
    · intro k after
      rw [region, Region.inline, withoutRegions, program]
      congr 1
      funext r
      exact ih.2 _ after
  | render component verdict rest hcomponent ih =>
    have hverdict : (component.program fun rs => .done (verdict rs)).withoutRegions =
      component.withoutRegions.program fun rs => .done (verdict rs) := hcomponent.1 _
    constructor
    · intro k
      rw [program, Program.withoutRegions, withoutRegions, program, hverdict]
      congr 1
      funext r
      exact ih.1 _
    · intro k after
      rw [region, Region.inline, withoutRegions, program, hverdict]
      congr 1
      funext r
      exact ih.2 _ after
  | conditional condition body ending rest hbody ih =>
    cases condition with
    -- the body's steps hand on their results to what follows, as they do in place
    | true =>
      constructor
      · intro k
        rw [program, Program.withoutRegions, withoutRegions, program_append, hbody.2]
        congr 1
        funext rs
        exact ih.1 _
      · intro k after
        rw [region, Region.inline, withoutRegions, program_append, hbody.2]
        congr 1
        funext rs
        exact ih.2 _ after
    -- a skipped body hands on nothing, whatever its steps would answer
    | false =>
      constructor
      · intro k
        rw [program, Program.withoutRegions, withoutRegions]
        exact ih.1 _
      · intro k after
        rw [region, Region.inline, withoutRegions]
        exact ih.2 _ after

end Script

/-- **Conditional regions of steps in a row can be compiled away.** With written regions replaced by
their steps and skipped ones by nothing, however they are nested and whatever stands in the skipped ones,
a script leaves the same canvas on every sink, the same result under every verdict and the same acts; its
log says of each remaining step what it said before. -/
theorem regions_compile_away (world : World) {σ : Type} [Sink σ] (c : Canvas σ) (script : Script)
    (verdict : List (Except CanvasError Unit) → Except CanvasError Unit) :
    let run := (script.component verdict).run world c
    let plain := (script.withoutRegions.component verdict).run world c
    script.withoutRegions.RegionFree ∧ plain.canvas = run.canvas ∧ plain.result = run.result ∧
      plain.acts = run.acts ∧ plain.log = Entry.outsideAll run.log := by
  intro run plain
  have hprogram : (script.component verdict).withoutRegions = script.withoutRegions.component verdict :=
    script.withoutRegions_program.1 _
  have hrun : plain = run.outside := by
    rw [← Program.run_withoutRegions, hprogram]
  rw [hrun]
  exact ⟨script.withoutRegions_regionFree, rfl, rfl, rfl, rfl⟩

end Hypertext
