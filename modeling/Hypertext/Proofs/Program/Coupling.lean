import Hypertext.Proofs.Canvas.Operations
import Hypertext.Proofs.Program.Law

/-!
# Two runs of one program

A `Canvas.Coupling` is a relation between two canvases, over sinks of whatever kinds, and all that has been
done to each. While they are together every request has the same answer on both; once they are apart they stay
apart, whatever is done to either. `Program.run_coupled` is the induction over both runs, done once: a program
keeps two canvases together and ends in the same result, or leaves them apart.

* `Program.Ignores`: the answers to some questions make no difference to what the program does.
* `Program.run_preserves`: what appending preserves, a run preserves.
* `performAll_coupled`, `contextSteps_coupled`: operations and steps on the bindings in a row.
-/

namespace Hypertext

mutual

/-- Whatever the answers, the program goes on in the same way whatever a hidden question shows, and flushes
the sink only if that is allowed. The component of a fragment asks another canvas. -/
def Program.Ignores (hidden : Query → Prop) (flushes : Prop) : Program → Prop
  | .done _ => True
  | .snippet _ => True
  | .write _ next => ∀ r, (next r).Ignores hidden flushes
  | .writeWithId _ next => ∀ r, (next r).Ignores hidden flushes
  | .render component next => component.Ignores hidden flushes ∧ ∀ r, (next r).Ignores hidden flushes
  | .conditional _ body next => body.Ignores hidden flushes ∧ ∀ outcome, (next outcome).Ignores hidden flushes
  | .fragment _ next => ∀ r, (next r).Ignores hidden flushes
  | .flush next => flushes ∧ ∀ r, (next r).Ignores hidden flushes
  | .nextId next => ∀ id, (next id).Ignores hidden flushes
  | .context _ next => ∀ answers, (next answers).Ignores hidden flushes
  | .inspect query next =>
    (hidden query → ∀ sight sight', next sight = next sight') ∧ ∀ sight, (next sight).Ignores hidden flushes

/-- The same of what is written inside a region. -/
def Region.Ignores (hidden : Query → Prop) (flushes : Prop) : Region → Prop
  | .leave _ _ => True
  | .write _ next => ∀ r, (next r).Ignores hidden flushes
  | .render component next => component.Ignores hidden flushes ∧ ∀ r, (next r).Ignores hidden flushes
  | .conditional _ body next => body.Ignores hidden flushes ∧ ∀ outcome, (next outcome).Ignores hidden flushes

end

section

variable {σ : Type} [Sink σ] {hidden : Query → Prop} {flushes : Prop} {P : σ → Prop}

theorem performAll_preserves (hP : Sink.Closed flushes P) (operations : List Operation) {c : Canvas σ}
    (h : P c.sink) : P (c.performAll operations).1.sink := by
  induction operations generalizing c with
  | nil => exact h
  | cons operation operations ih =>
    have hone := Canvas.perform_preserves hP operation h
    cases hr : (c.perform operation).2 with
    | ok u =>
      rw [(performAll_cons_ok c operations hr).1]
      exact ih hone
    | error e =>
      rw [(performAll_cons_error c operations hr).1]
      exact hone

/-- What operations in a row do is what the first one does, and possibly more. -/
theorem performAll_first (operation : Operation) (operations : List Operation) (c : Canvas σ) :
    (∃ more, c.acts (operation :: operations) =
        .wrote operation (c.perform operation).2 (c.perform operation).1.openTags :: more) ∧
      ∀ {P : σ → Prop}, Sink.Closed flushes P → P (c.perform operation).1.sink →
        P (c.performAll (operation :: operations)).1.sink := by
  cases hr : (c.perform operation).2 with
  | ok u =>
    obtain ⟨hall, hacts⟩ := performAll_cons_ok c operations hr
    rw [hall]
    exact ⟨⟨_, hacts⟩, fun hP h => performAll_preserves hP operations h⟩
  | error e =>
    obtain ⟨hall, hacts⟩ := performAll_cons_error c operations hr
    rw [hall]
    exact ⟨⟨_, hacts⟩, fun _ h => h⟩

mutual

/-- **What appending preserves, a run preserves.** -/
theorem Program.run_preserves (world : World) (hP : Sink.Closed flushes P) (p : Program)
    (hp : p.Ignores hidden flushes) {c : Canvas σ} (h : P c.sink) : P (p.run world c).canvas.sink := by
  cases p with
  | done result => exact h
  | snippet location =>
    unfold Program.run
    cases loadText world location with
    | ok text => exact Canvas.perform_preserves hP (.text (some text) .noEscape) h
    | error e => exact h
  | write operations next =>
    exact (next _).run_preserves world hP (hp _) (performAll_preserves hP _ h)
  | writeWithId operations next =>
    have hissued : P c.nextId.2.sink := h
    exact (next _).run_preserves world hP (hp _) (performAll_preserves hP _ hissued)
  | render component next =>
    have hinner := component.run_preserves world hP hp.1 (c := c.enterFrame) h
    exact (next _).run_preserves world hP (hp.2 _) (c := (component.run world c.enterFrame).canvas.leaveFrame)
      hinner
  | conditional condition body next =>
    cases condition with
    | true =>
      rw [run_written_region]
      exact (next _).run_preserves world hP (hp.2 _) (body.pass_preserves world hP hp.1 h)
    | false =>
      rw [run_skipped_region]
      exact (next _).run_preserves world hP (hp.2 _) h
  | fragment component next =>
    -- a fragment is written to a sink of its own
    exact (next _).run_preserves world hP (hp _)
      (c := c.afterFragment (component.run world c.fragment.enterFrame)) h
  | flush next => exact (next _).run_preserves world hP (hp.2 _) (c := c.flush.1) (hP.flush hp.1 _ h)
  | nextId next => exact (next _).run_preserves world hP (hp _) (c := c.nextId.2) h
  | context steps next => exact (next _).run_preserves world hP (hp _) (c := c.bindAll steps) h
  | inspect query next => exact (next _).run_preserves world hP (hp.2 _) h

/-- The same of a region that is written. -/
theorem Region.pass_preserves (world : World) (hP : Sink.Closed flushes P) (body : Region)
    (hbody : body.Ignores hidden flushes) {c : Canvas σ} (h : P c.sink) :
    P (body.pass world c).canvas.sink := by
  cases body with
  | leave ending kept => exact h
  | write operations next =>
    rw [pass_write]
    exact (next _).pass_preserves world hP (hbody _) (performAll_preserves hP _ h)
  | render component next =>
    have hinner := component.run_preserves world hP hbody.1 (c := c.enterFrame) h
    exact (next _).pass_preserves world hP (hbody.2 _)
      (c := (component.run world c.enterFrame).canvas.leaveFrame) hinner
  | conditional condition body next =>
    cases condition with
    | true =>
      rw [pass_written_region]
      exact (next _).pass_preserves world hP (hbody.2 _) (body.pass_preserves world hP hbody.1 h)
    | false =>
      rw [pass_skipped_region]
      exact (next _).pass_preserves world hP (hbody.2 _) h

end

end

/-- The canvases are together and show the same, or they are apart. -/
def Canvas.Coupled {σ τ α : Type} (Together : Canvas σ → List Act → Canvas τ → List Act → Prop)
    (Apart : σ → List Act → τ → List Act → Prop)
    (c : Canvas σ) (acts : List Act) (shown : α) (c' : Canvas τ) (acts' : List Act) (shown' : α) : Prop :=
  shown = shown' ∧ Together c acts c' acts' ∨ Apart c.sink acts c'.sink acts'

/-- A relation between two canvases and all that has been done to them, which single requests keep or turn for
good into another one. -/
structure Canvas.Coupling (σ τ : Type) [Sink σ] [Sink τ] (hidden : Query → Prop) (flushes : Prop)
    (Together : Canvas σ → List Act → Canvas τ → List Act → Prop)
    (Apart : σ → List Act → τ → List Act → Prop) : Prop where
  /-- The bindings, the settings and the record of warnings are the same. -/
  shared : ∀ {c acts c' acts'}, Together c acts c' acts' → c.fragment = c'.fragment
  look : ∀ {c acts c' acts'}, Together c acts c' acts' → ∀ query, ¬ hidden query →
    c.look query = c'.look query
  wrote : ∀ {c acts c' acts'}, Together c acts c' acts' → ∀ operation,
    Coupled Together Apart
      (c.perform operation).1
      (acts ++ [.wrote operation (c.perform operation).2 (c.perform operation).1.openTags])
      (c.perform operation).2
      (c'.perform operation).1
      (acts' ++ [.wrote operation (c'.perform operation).2 (c'.perform operation).1.openTags])
      (c'.perform operation).2
  flushed : flushes → ∀ {c acts c' acts'}, Together c acts c' acts' →
    Coupled Together Apart c.flush.1 (acts ++ [.flushed c.flush.2]) c.flush.2
      c'.flush.1 (acts' ++ [.flushed c'.flush.2]) c'.flush.2
  issued : ∀ {c acts c' acts'}, Together c acts c' acts' →
    Coupled Together Apart c.nextId.2 (acts ++ [.issued c.nextId.1]) c.nextId.1
      c'.nextId.2 (acts' ++ [.issued c'.nextId.1]) c'.nextId.1
  bound : ∀ {c acts c' acts'}, Together c acts c' acts' → ∀ step,
    Together (c.bind step) (acts ++ [c.boundAct step]) (c'.bind step) (acts' ++ [c'.boundAct step])
  enter : ∀ {c acts c' acts'}, Together c acts c' acts' → Together c.enterFrame acts c'.enterFrame acts'
  leave : ∀ {c acts c' acts'}, Together c acts c' acts' → Together c.leaveFrame acts c'.leaveFrame acts'
  fragment : ∀ {c acts c' acts'}, Together c acts c' acts' → ∀ inner w,
    Together { c with warnings := w } (acts ++ [.fragment inner])
      { c' with warnings := w } (acts' ++ [.fragment inner])
  /-- Whatever is done to either canvas leaves them apart. -/
  later : ∀ {s acts s' acts'}, Apart s acts s' acts' → ∀ more more',
    Apart s (acts ++ more) s' (acts' ++ more')
  left : ∀ acts s' acts', Sink.Closed flushes fun s => Apart s acts s' acts'
  right : ∀ s acts acts', Sink.Closed flushes fun s' => Apart s acts s' acts'

section

variable {σ τ : Type} [Sink σ] [Sink τ] {hidden : Query → Prop} {flushes : Prop}
  {Together : Canvas σ → List Act → Canvas τ → List Act → Prop}
  {Apart : σ → List Act → τ → List Act → Prop}
  {c d : Canvas σ} {c' d' : Canvas τ} {before acts before' acts' : List Act}

/-- Canvases that are apart stay apart if their sinks change by appending. -/
theorem Canvas.Coupling.stayApart (h : Canvas.Coupling σ τ hidden flushes Together Apart)
    (hapart : Apart c.sink before c'.sink before')
    (hleft : ∀ {P}, Sink.Closed flushes P → P c.sink → P d.sink)
    (hright : ∀ {P}, Sink.Closed flushes P → P c'.sink → P d'.sink) (acts acts' : List Act) :
    Apart d.sink (before ++ acts) d'.sink (before' ++ acts') := by
  have hsinks : Apart d.sink before d'.sink before' := hright (h.right _ _ _) (hleft (h.left _ _ _) hapart)
  exact h.later hsinks acts acts'

/-- Something done to two canvases, and after it something more. -/
theorem Canvas.Coupled.trans (h : Canvas.Coupling σ τ hidden flushes Together Apart) {α β : Type}
    {shown shown' : α} {answer answer' : β}
    (hfirst : Coupled Together Apart c before shown c' before' shown')
    (hleft : ∀ {P}, Sink.Closed flushes P → P c.sink → P d.sink)
    (hright : ∀ {P}, Sink.Closed flushes P → P c'.sink → P d'.sink)
    (hrest : shown = shown' → Together c before c' before' →
      Coupled Together Apart d (before ++ acts) answer d' (before' ++ acts') answer') :
    Coupled Together Apart d (before ++ acts) answer d' (before' ++ acts') answer' := by
  rcases hfirst with ⟨hshown, htogether⟩ | hapart
  · exact hrest hshown htogether
  · exact .inr (h.stayApart hapart hleft hright acts acts')

/-- Leaving the frame of a component on both canvases. -/
theorem Canvas.Coupled.leaveFrame (h : Canvas.Coupling σ τ hidden flushes Together Apart) {α : Type}
    {shown shown' : α} (hinner : Coupled Together Apart c before shown c' before' shown') :
    Coupled Together Apart c.leaveFrame before shown c'.leaveFrame before' shown' := by
  rcases hinner with ⟨hshown, htogether⟩ | hapart
  · exact .inl ⟨hshown, h.leave htogether⟩
  · exact .inr hapart

omit [Sink σ] [Sink τ] in
/-- A request that does nothing to the canvas. -/
theorem Canvas.Coupled.nothing {α : Type} {shown : α} (htogether : Together c before c' before') :
    Coupled Together Apart c (before ++ []) shown c' (before' ++ []) shown := by
  rw [List.append_nil, List.append_nil]
  exact .inl ⟨rfl, htogether⟩

/-- Operations performed on two canvases until one fails. -/
theorem performAll_coupled (h : Canvas.Coupling σ τ hidden flushes Together Apart)
    (operations : List Operation) (htogether : Together c before c' before') :
    Canvas.Coupled Together Apart
      (c.performAll operations).1 (before ++ c.acts operations) (c.performAll operations).2
      (c'.performAll operations).1 (before' ++ c'.acts operations) (c'.performAll operations).2 := by
  induction operations generalizing c before c' before' with
  | nil => exact Canvas.Coupled.nothing htogether
  | cons operation operations ih =>
    rcases h.wrote htogether operation with ⟨hsame, hone⟩ | hapart
    · cases hr : (c.perform operation).2 with
      | ok u =>
        have hr' := hsame.symm.trans hr
        obtain ⟨hall, hacts⟩ := performAll_cons_ok c operations hr
        obtain ⟨hall', hacts'⟩ := performAll_cons_ok c' operations hr'
        rw [hall, hacts, hall', hacts']
        rw [hr, hr'] at hone
        have hboth := ih hone
        rw [List.append_assoc, List.append_assoc] at hboth
        exact hboth
      | error e =>
        have hr' := hsame.symm.trans hr
        obtain ⟨hall, hacts⟩ := performAll_cons_error c operations hr
        obtain ⟨hall', hacts'⟩ := performAll_cons_error c' operations hr'
        rw [hall, hacts, hall', hacts']
        rw [hr, hr'] at hone
        exact .inl ⟨hsame, hone⟩
    -- apart, each canvas goes on or stops by itself
    · obtain ⟨⟨more, hacts⟩, hleft⟩ := performAll_first operation operations c
      obtain ⟨⟨more', hacts'⟩, hright⟩ := performAll_first operation operations c'
      have hlater := h.stayApart hapart hleft hright more more'
      rw [List.append_assoc, List.append_assoc] at hlater
      rw [hacts, hacts']
      exact .inr hlater

/-- Canvases that are together have the same bindings and warnings, and so do the same steps on them. -/
theorem contextSteps_coupled (h : Canvas.Coupling σ τ hidden flushes Together Apart)
    (steps : List Scope.Step) (htogether : Together c before c' before') :
    c.bindEntries steps = c'.bindEntries steps ∧
      Together (c.bindAll steps) (before ++ List.zipWith Act.bound steps (c.bindEntries steps))
        (c'.bindAll steps) (before' ++ List.zipWith Act.bound steps (c'.bindEntries steps)) := by
  constructor
  · have hshared := h.shared htogether
    have hcontext : c.context = c'.context := congrArg Canvas.context hshared
    have hwarnings : c.warnings = c'.warnings := congrArg Canvas.warnings hshared
    unfold Canvas.bindEntries
    rw [hcontext, hwarnings]
  · induction steps generalizing c before c' before' with
    | nil =>
      have hnil : List.zipWith Act.bound ([] : List Scope.Step) (c.bindEntries []) = [] := rfl
      have hnil' : List.zipWith Act.bound ([] : List Scope.Step) (c'.bindEntries []) = [] := rfl
      rw [hnil, hnil', List.append_nil, List.append_nil]
      exact htogether
    | cons step steps ih =>
      have hrest := ih (h.bound htogether step)
      rw [List.append_assoc, List.append_assoc] at hrest
      exact hrest

/-- Two runs from canvases with these acts behind them leave the canvases together, or apart. -/
def Run.Coupled (Together : Canvas σ → List Act → Canvas τ → List Act → Prop)
    (Apart : σ → List Act → τ → List Act → Prop) (run : Run σ) (before : List Act) (run' : Run τ)
    (before' : List Act) : Prop :=
  Canvas.Coupled Together Apart run.canvas (before ++ run.acts) run.result
    run'.canvas (before' ++ run'.acts) run'.result

/-- The same of a region, which shows how it was left and what it kept. -/
def Region.Run.Coupled (Together : Canvas σ → List Act → Canvas τ → List Act → Prop)
    (Apart : σ → List Act → τ → List Act → Prop) (run : Region.Run σ) (before : List Act)
    (run' : Region.Run τ) (before' : List Act) : Prop :=
  Canvas.Coupled Together Apart run.canvas (before ++ run.acts) (run.ending, run.kept)
    run'.canvas (before' ++ run'.acts) (run'.ending, run'.kept)

section

variable {world : World} {α : Type} {shown shown' : α}

/-- What a program does after a request, if it is coupled where the request has left the canvases together. -/
theorem Canvas.Coupled.run (h : Canvas.Coupling σ τ hidden flushes Together Apart) {next : α → Program}
    (hnext : ∀ shown, (next shown).Ignores hidden flushes) (entry entry' : Entry)
    (hfirst : Canvas.Coupled Together Apart c (before ++ acts) shown c' (before' ++ acts') shown')
    (hrest : Together c (before ++ acts) c' (before' ++ acts') →
      Run.Coupled Together Apart ((next shown).run world c) (before ++ acts)
        ((next shown).run world c') (before' ++ acts')) :
    Run.Coupled Together Apart (((next shown).run world c).after entry acts) before
      (((next shown').run world c').after entry' acts') before' := by
  unfold Run.Coupled Run.after at *
  rw [← List.append_assoc, ← List.append_assoc]
  refine hfirst.trans h (fun hP => (next shown).run_preserves world hP (hnext shown))
    (fun hP => (next shown').run_preserves world hP (hnext shown')) ?_
  rintro rfl htogether
  exact hrest htogether

/-- The same inside a region. -/
theorem Canvas.Coupled.pass (h : Canvas.Coupling σ τ hidden flushes Together Apart) {next : α → Region}
    (hnext : ∀ shown, (next shown).Ignores hidden flushes) (entry entry' : Entry)
    (hfirst : Canvas.Coupled Together Apart c (before ++ acts) shown c' (before' ++ acts') shown')
    (hrest : Together c (before ++ acts) c' (before' ++ acts') →
      Region.Run.Coupled Together Apart ((next shown).pass world c) (before ++ acts)
        ((next shown).pass world c') (before' ++ acts')) :
    Region.Run.Coupled Together Apart (((next shown).pass world c).after entry acts) before
      (((next shown').pass world c').after entry' acts') before' := by
  unfold Region.Run.Coupled Region.Run.after at *
  rw [← List.append_assoc, ← List.append_assoc]
  refine hfirst.trans h (fun hP => (next shown).pass_preserves world hP (hnext shown))
    (fun hP => (next shown').pass_preserves world hP (hnext shown')) ?_
  rintro rfl htogether
  exact hrest htogether

end

mutual

/-- **Two runs of one program** that ignores what is hidden keep the canvases together and end in the same
result, or they leave them apart. -/
theorem Program.run_coupled (world : World) (h : Canvas.Coupling σ τ hidden flushes Together Apart)
    (p : Program) (hp : p.Ignores hidden flushes) {c : Canvas σ} {before : List Act} {c' : Canvas τ}
    {before' : List Act} (htogether : Together c before c' before') :
    Run.Coupled Together Apart (p.run world c) before (p.run world c') before' := by
  cases p with
  | done result => exact Canvas.Coupled.nothing htogether
  | snippet location =>
    unfold Program.run
    cases loadText world location with
    | ok text => exact h.wrote htogether (.text (some text) .noEscape)
    | error e => exact Canvas.Coupled.nothing htogether
  | write operations next =>
    have hscope : c.context = c'.context := congrArg Canvas.context (h.shared htogether)
    rw [run_write, run_write, hscope]
    exact (performAll_coupled h _ htogether).run h hp _ _ fun ht => (next _).run_coupled world h (hp _) ht
  | writeWithId operations next =>
    have hwritten : Canvas.Coupled Together Apart
        (c.nextId.2.performAll (operations c.nextId.1)).1
        ((before ++ [.issued c.nextId.1]) ++ c.nextId.2.acts (operations c.nextId.1))
        (c.nextId.2.performAll (operations c.nextId.1)).2
        (c'.nextId.2.performAll (operations c'.nextId.1)).1
        ((before' ++ [.issued c'.nextId.1]) ++ c'.nextId.2.acts (operations c'.nextId.1))
        (c'.nextId.2.performAll (operations c'.nextId.1)).2 := by
      refine (h.issued htogether).trans h (fun hP => performAll_preserves hP _)
        (fun hP => performAll_preserves hP _) fun hid ht => ?_
      rw [hid] at ht ⊢
      exact performAll_coupled h _ ht
    rw [List.append_assoc, List.append_assoc] at hwritten
    rw [run_writeWithId, run_writeWithId]
    exact hwritten.run h hp _ _ fun ht => (next _).run_coupled world h (hp _) ht
  | render component next =>
    have hinner := component.run_coupled world h hp.1 (h.enter htogether)
    rw [run_render, run_render]
    exact (hinner.leaveFrame h).run h hp.2 _ _ fun ht => (next _).run_coupled world h (hp.2 _) ht
  | conditional condition body next =>
    cases condition with
    | true =>
      have hbody := body.pass_coupled world h hp.1 htogether
      have hnext : ∀ left : Ending × List (Except CanvasError Unit),
        (next ⟨left.1.result 0, left.2⟩).Ignores hidden flushes := fun _ => hp.2 _
      rw [run_written_region, run_written_region]
      exact hbody.run h hnext _ _ fun ht => (next _).run_coupled world h (hp.2 _) ht
    | false =>
      rw [run_skipped_region, run_skipped_region]
      exact (Canvas.Coupled.nothing htogether).run h hp.2 _ _ fun ht =>
        (next _).run_coupled world h (hp.2 _) ht
  | fragment component next =>
    -- the fragment begins in the same way on both sides, so it is one and the same run
    have hwarned := h.fragment htogether (component.run world c.fragment.enterFrame).acts
      (component.run world c.fragment.enterFrame).canvas.warnings
    rw [run_fragment, run_fragment, ← h.shared htogether]
    exact Canvas.Coupled.run h hp _ _ (.inl ⟨rfl, hwarned⟩) fun ht => (next _).run_coupled world h (hp _) ht
  | flush next =>
    rw [run_flush, run_flush]
    exact (h.flushed hp.1 htogether).run h hp.2 _ _ fun ht => (next _).run_coupled world h (hp.2 _) ht
  | nextId next =>
    rw [run_nextId, run_nextId]
    exact (h.issued htogether).run h hp _ _ fun ht => (next _).run_coupled world h (hp _) ht
  | context steps next =>
    obtain ⟨hentries, hbound⟩ := contextSteps_coupled h steps htogether
    rw [run_context, run_context]
    exact Canvas.Coupled.run h hp _ _ (.inl ⟨congrArg (List.map (·.answer)) hentries, hbound⟩) fun ht =>
      (next _).run_coupled world h (hp _) ht
  | inspect query next =>
    have hnext : next (c'.look query) = next (c.look query) := by
      by_cases hhidden : hidden query
      · exact hp.1 hhidden _ _
      · rw [h.look htogether query hhidden]
    rw [run_inspect, run_inspect, hnext]
    exact (Canvas.Coupled.nothing htogether).run h hp.2 _ _ fun ht => (next _).run_coupled world h (hp.2 _) ht

/-- The same of a region that is written to both canvases. -/
theorem Region.pass_coupled (world : World) (h : Canvas.Coupling σ τ hidden flushes Together Apart)
    (body : Region) (hbody : body.Ignores hidden flushes) {c : Canvas σ} {before : List Act} {c' : Canvas τ}
    {before' : List Act} (htogether : Together c before c' before') :
    Region.Run.Coupled Together Apart (body.pass world c) before (body.pass world c') before' := by
  cases body with
  | leave ending kept => exact Canvas.Coupled.nothing htogether
  | write operations next =>
    rw [pass_write, pass_write]
    exact (performAll_coupled h _ htogether).pass h hbody _ _ fun ht =>
      (next _).pass_coupled world h (hbody _) ht
  | render component next =>
    have hinner := component.run_coupled world h hbody.1 (h.enter htogether)
    rw [pass_render, pass_render]
    exact (hinner.leaveFrame h).pass h hbody.2 _ _ fun ht => (next _).pass_coupled world h (hbody.2 _) ht
  | conditional condition body next =>
    cases condition with
    | true =>
      have hinner := body.pass_coupled world h hbody.1 htogether
      have hnext : ∀ left : Ending × List (Except CanvasError Unit),
        (next ⟨left.1.result 0, left.2⟩).Ignores hidden flushes := fun _ => hbody.2 _
      rw [pass_written_region, pass_written_region]
      exact hinner.pass h hnext _ _ fun ht => (next _).pass_coupled world h (hbody.2 _) ht
    | false =>
      rw [pass_skipped_region, pass_skipped_region]
      exact (Canvas.Coupled.nothing htogether).pass h hbody.2 _ _ fun ht =>
        (next _).pass_coupled world h (hbody.2 _) ht

end

end

end Hypertext
