import Hypertext.Proofs.Canvas.Operations
import Hypertext.Proofs.Program.Requests

/-!
# Programs that do not look at warnings

Warnings are given all the time. They make no difference to a program that does not ask for them.

* `Query.OfWarnings`, `Reading.OfWarnings`: the questions about recorded warnings.
* `Program.Avoids`: a program that does not ask hidden questions, nor about warnings when it reads the bindings.
* `Canvas.SameButWarnings`: two canvases that differ in their warnings only.
* `Entry.unwarned`: an entry of a log without the numbers of warnings that it reports.
* `Program.run_sameButWarnings`: from two such canvases a program does the same.
-/

namespace Hypertext

/-- The question is whether a warning is recorded. -/
def Query.OfWarnings : Query → Prop
  | .hasWarned _ _ => True
  | _ => False

/-- The question, or the one that is put to a dictionary further in, is whether a warning is recorded. -/
def Reading.OfWarnings : Reading → Prop
  | .hasWarned _ _ => True
  | .nested _ reading => reading.OfWarnings
  | _ => False

/-- The step asks whether a warning is recorded. -/
def Scope.Step.OfWarnings : Scope.Step → Prop
  | .read reading => reading.OfWarnings
  | _ => False

mutual

/-- Whatever the answers, the program asks no hidden question about its canvas or that of a fragment, and does
not ask for warnings when it reads the bindings. -/
def Program.Avoids (hidden : Query → Prop) : Program → Prop
  | .done _ => True
  | .snippet _ => True
  | .write _ next => ∀ r, (next r).Avoids hidden
  | .writeWithId _ next => ∀ r, (next r).Avoids hidden
  | .render component next => component.Avoids hidden ∧ ∀ r, (next r).Avoids hidden
  | .conditional _ body next => body.Avoids hidden ∧ ∀ outcome, (next outcome).Avoids hidden
  | .fragment component next => component.Avoids hidden ∧ ∀ r, (next r).Avoids hidden
  | .flush next => ∀ r, (next r).Avoids hidden
  | .nextId next => ∀ id, (next id).Avoids hidden
  | .context steps next =>
    (∀ step ∈ steps, ¬ step.OfWarnings) ∧ ∀ answers, (next answers).Avoids hidden
  | .inspect query next => ¬ hidden query ∧ ∀ sight, (next sight).Avoids hidden

/-- The same of the components inside a region. -/
def Region.Avoids (hidden : Query → Prop) : Region → Prop
  | .leave _ _ => True
  | .write _ next => ∀ r, (next r).Avoids hidden
  | .render component next => component.Avoids hidden ∧ ∀ r, (next r).Avoids hidden
  | .conditional _ body next => body.Avoids hidden ∧ ∀ outcome, (next outcome).Avoids hidden

end

/-- What a step on the bindings left behind, without the number of warnings. -/
def Scope.Entry.unwarned (entry : Scope.Entry) : Scope.Entry :=
  { entry with warnings := 0 }

/-- What a request answered, without the numbers of warnings. -/
def Remark.unwarned : Remark → Remark
  | .context entries => .context (entries.map Scope.Entry.unwarned)
  | remark => remark

mutual

/-- The entry without the numbers of warnings. -/
def Entry.unwarned : Entry → Entry
  | .mk remark depth received skipping inner =>
    .mk remark.unwarned depth received skipping (Entry.unwarnedInner inner)

/-- An inner log, if there is one, without the numbers of warnings. -/
def Entry.unwarnedInner : Option (List Entry) → Option (List Entry)
  | none => none
  | some entries => some (Entry.unwarnedAll entries)

/-- A log without the numbers of warnings. -/
def Entry.unwarnedAll : List Entry → List Entry
  | [] => []
  | entry :: entries => entry.unwarned :: Entry.unwarnedAll entries

end

/-! ### Steps on the bindings -/

/-- Converting a value may give a warning, but does not depend on those given before. -/
theorem Bindings.convert_value {β α : Type} [Bindings β] (read : Json → Option α) (wanted : String) (store : β)
    (key : String) (w w' : Warnings) :
    (convert read wanted store key w').1 = (convert read wanted store key w).1 := by
  unfold convert
  cases value? store key with
  | none => rfl
  | some value =>
    dsimp only
    cases read value <;> rfl

/-- What is read does not depend on the warnings, unless it is about them. -/
theorem Reading.perform_answer {β : Type} [Bindings β] {reading : Reading} (h : ¬ reading.OfWarnings) (store : β)
    (w w' : Warnings) : (reading.perform store w').1 = (reading.perform store w).1 := by
  cases reading with
  | nested key reading =>
    unfold perform
    cases Bindings.getMap store key with
    | none => rfl
    | some fields =>
      have hinner : ¬ reading.OfWarnings := h
      exact perform_answer hinner fields w w'
  | hasWarned component message => exact absurd trivial h
  | getLong | getLongOr | getInt | getIntOr =>
    simp only [perform, Bindings.getInt, Bindings.getLong, Bindings.convert_value _ _ store _ w w']
  | getFloat | getFloatOr =>
    simp only [perform, Bindings.getFloat, Bindings.convert_value _ _ store _ w w']
  | getBool | getBoolOr =>
    simp only [perform, Bindings.getBool, Bindings.convert_value _ _ store _ w w']
  | value | contains | getString | getStringOr | getMap | getAs => rfl

/-- The same of a step on the bindings, and of the bindings after it. -/
theorem Scope.perform_answer {step : Scope.Step} (h : ¬ step.OfWarnings) (scope : Scope) (w w' : Warnings) :
    (perform step scope w').1 = (perform step scope w).1 ∧
      (perform step scope w').2.1 = (perform step scope w).2.1 := by
  cases step with
  | read reading => exact ⟨reading.perform_answer h scope w w', rfl⟩
  | setSerialized key serialized => cases serialized <;> exact ⟨rfl, rfl⟩
  | push | pop | set | setNested | get | remove | innermost | requestPath | parameter | header | cookie
  | sessionValue => exact ⟨rfl, rfl⟩

/-- **Steps in a row** do not depend on the warnings, unless they ask for them. -/
theorem Scope.performAll_answers (steps : List Scope.Step) (h : ∀ step ∈ steps, ¬ step.OfWarnings)
    (scope : Scope) (w w' : Warnings) :
    (performAll steps scope w').1.map Scope.Entry.unwarned =
        (performAll steps scope w).1.map Scope.Entry.unwarned ∧
      (performAll steps scope w').2.1 = (performAll steps scope w).2.1 := by
  -- one step may give a warning on one side only, so the records differ anew at each step
  induction steps generalizing scope w w' with
  | nil => exact ⟨rfl, rfl⟩
  | cons step steps ih =>
    obtain ⟨hanswer, hscope⟩ := Scope.perform_answer (h step List.mem_cons_self) scope w w'
    have hcons : ∀ w, performAll (step :: steps) scope w =
      (⟨(perform step scope w).1, (perform step scope w).2.1.depth, (perform step scope w).2.2.count⟩ ::
        (performAll steps (perform step scope w).2.1 (perform step scope w).2.2).1,
        (performAll steps (perform step scope w).2.1 (perform step scope w).2.2).2) := fun _ => rfl
    obtain ⟨hentries, hafter⟩ := ih (fun step hstep => h step (List.mem_cons_of_mem _ hstep))
      (perform step scope w).2.1 (perform step scope w).2.2 (perform step scope w').2.2
    rw [hcons, hcons, hscope]
    refine ⟨?_, hafter⟩
    rw [List.map_cons, List.map_cons, hentries, hanswer]
    rfl

/-! ### Canvases -/

/-- The canvases differ at most in their record of warnings and, if the settings are hidden, in whether they
warn of obsolete elements. -/
def Canvas.SameButWarnings {σ : Type} (hidden : Query → Prop) (c d : Canvas σ) : Prop :=
  ∃ warnings warnsOfObsolete, d = { c with warnings, config := { c.config with warnsOfObsolete } } ∧
    (hidden .config ∨ warnsOfObsolete = c.config.warnsOfObsolete)

namespace Canvas.SameButWarnings

variable {σ : Type} {hidden : Query → Prop} {c d : Canvas σ}

theorem context (h : SameButWarnings hidden c d) : d.context = c.context := by
  obtain ⟨w, warns, rfl, -⟩ := h
  rfl

theorem enterFrame (h : SameButWarnings hidden c d) : SameButWarnings hidden c.enterFrame d.enterFrame := by
  obtain ⟨w, warns, rfl, hhidden⟩ := h
  exact ⟨w, warns, rfl, hhidden⟩

theorem leaveFrame (h : SameButWarnings hidden c d) : SameButWarnings hidden c.leaveFrame d.leaveFrame := by
  obtain ⟨w, warns, rfl, hhidden⟩ := h
  exact ⟨w, warns, rfl, hhidden⟩

theorem fragment (h : SameButWarnings hidden c d) : SameButWarnings hidden c.fragment d.fragment := by
  obtain ⟨w, warns, rfl, hhidden⟩ := h
  exact ⟨w, warns, rfl, hhidden⟩

theorem nextId (h : SameButWarnings hidden c d) :
    d.nextId.1 = c.nextId.1 ∧ SameButWarnings hidden c.nextId.2 d.nextId.2 := by
  obtain ⟨w, warns, rfl, hhidden⟩ := h
  exact ⟨rfl, w, warns, rfl, hhidden⟩

/-- Steps on the bindings that do not ask for warnings. -/
theorem bindAll (h : SameButWarnings hidden c d) {steps : List Scope.Step}
    (hsteps : ∀ step ∈ steps, ¬ step.OfWarnings) :
    (d.bindEntries steps).map Scope.Entry.unwarned = (c.bindEntries steps).map Scope.Entry.unwarned ∧
      SameButWarnings hidden (c.bindAll steps) (d.bindAll steps) := by
  obtain ⟨w, warns, rfl, hhidden⟩ := h
  obtain ⟨hentries, hscope⟩ := Scope.performAll_answers steps hsteps c.context c.warnings w
  refine ⟨hentries, (Scope.performAll steps c.context w).2.2, warns, ?_, hhidden⟩
  unfold Canvas.bindAll
  dsimp only
  rw [hscope]

/-- A fragment only tells the canvas its warnings. -/
theorem afterFragment (h : SameButWarnings hidden c d) (f f' : Run String) :
    SameButWarnings hidden (c.afterFragment f) (d.afterFragment f') := by
  obtain ⟨w, warns, rfl, hhidden⟩ := h
  exact ⟨_, warns, rfl, hhidden⟩

variable [Sink σ]

/-- **One operation** has the same result on both and changes both in the same way. -/
theorem perform (h : SameButWarnings hidden c d) (operation : Operation) :
    (d.perform operation).2 = (c.perform operation).2 ∧
      SameButWarnings hidden (c.perform operation).1 (d.perform operation).1 := by
  obtain ⟨w, warns, rfl, hhidden⟩ := h
  rw [perform_eq, perform_eq]
  exact ⟨rfl, _, warns, rfl, hhidden⟩

theorem performAll (h : SameButWarnings hidden c d) (operations : List Operation) :
    (d.performAll operations).2 = (c.performAll operations).2 ∧
      SameButWarnings hidden (c.performAll operations).1 (d.performAll operations).1 := by
  induction operations generalizing c d with
  | nil => exact ⟨rfl, h⟩
  | cons operation operations ih =>
    obtain ⟨hresult, hone⟩ := h.perform operation
    cases hr : (c.perform operation).2 with
    | ok u =>
      rw [(performAll_cons_ok c operations hr).1, (performAll_cons_ok d operations (hresult.trans hr)).1]
      exact ih hone
    | error e =>
      rw [(performAll_cons_error c operations hr).1, (performAll_cons_error d operations (hresult.trans hr)).1]
      exact ⟨hresult, hone⟩

theorem flush (h : SameButWarnings hidden c d) :
    d.flush.2 = c.flush.2 ∧ SameButWarnings hidden c.flush.1 d.flush.1 := by
  obtain ⟨w, warns, rfl, hhidden⟩ := h
  exact ⟨rfl, w, warns, rfl, hhidden⟩

theorem look (h : SameButWarnings hidden c d) (hwarnings : ∀ query, query.OfWarnings → hidden query)
    {query : Query} (hquery : ¬ hidden query) : d.look query = c.look query := by
  obtain ⟨w, warns, rfl, hconfig⟩ := h
  cases query with
  | pending | balanced | output => rfl
  | config =>
    obtain rfl := hconfig.resolve_left hquery
    rfl
  | hasWarned component message => exact absurd (hwarnings (.hasWarned component message) trivial) hquery

/-- Requests that answer the same leave the same entry. -/
theorem entry {before before' after after' : Canvas σ} (h : SameButWarnings hidden before before')
    (h' : SameButWarnings hidden after after') {remark remark' : Remark}
    (hremark : remark'.unwarned = remark.unwarned) (skipping : Option Bool) {inner inner' : Option (List Entry)}
    (hinner : Entry.unwarnedInner inner' = Entry.unwarnedInner inner) :
    (before'.entry after' remark' skipping inner').unwarned =
      (before.entry after remark skipping inner).unwarned := by
  obtain ⟨w, warns, rfl, -⟩ := h
  obtain ⟨w', warns', rfl, -⟩ := h'
  unfold Canvas.entry Entry.unwarned
  rw [hremark, hinner]
  rfl

end Canvas.SameButWarnings

/-! ### Runs -/

section

variable {σ : Type}

/-- The runs leave the same canvas, the same result and the same log, except for warnings. -/
structure Run.SameButWarnings (hidden : Query → Prop) (run run' : Run σ) : Prop where
  canvas : run.canvas.SameButWarnings hidden run'.canvas
  result : run'.result = run.result
  log : Entry.unwarnedAll run'.log = Entry.unwarnedAll run.log

/-- The same of a region that is written. -/
structure Region.Run.SameButWarnings (hidden : Query → Prop) (run run' : Region.Run σ) : Prop where
  canvas : run.canvas.SameButWarnings hidden run'.canvas
  ending : run'.ending = run.ending
  kept : run'.kept = run.kept
  log : Entry.unwarnedAll run'.log = Entry.unwarnedAll run.log

variable {hidden : Query → Prop}

theorem Run.SameButWarnings.inner {run run' : Run σ} (h : run.SameButWarnings hidden run') :
    Entry.unwarnedInner (some run'.log) = Entry.unwarnedInner (some run.log) :=
  congrArg some h.log

theorem Region.Run.SameButWarnings.inner {run run' : Region.Run σ} (h : run.SameButWarnings hidden run') :
    Entry.unwarnedInner (some run'.log) = Entry.unwarnedInner (some run.log) :=
  congrArg some h.log

theorem Run.SameButWarnings.after {run run' : Run σ} (h : run.SameButWarnings hidden run') {entry entry' : Entry}
    (hentry : entry'.unwarned = entry.unwarned) (acts acts' : List Act) :
    (run.after entry acts).SameButWarnings hidden (run'.after entry' acts') where
  canvas := h.canvas
  result := h.result
  log := by
    unfold Run.after Entry.unwarnedAll
    rw [hentry, h.log]

theorem Region.Run.SameButWarnings.after {run run' : Region.Run σ} (h : run.SameButWarnings hidden run')
    {entry entry' : Entry} (hentry : entry'.unwarned = entry.unwarned) (acts acts' : List Act) :
    (run.after entry acts).SameButWarnings hidden (run'.after entry' acts') where
  canvas := h.canvas
  ending := h.ending
  kept := h.kept
  log := by
    unfold Region.Run.after Entry.unwarnedAll
    rw [hentry, h.log]

/-- The fragments have the same text. -/
theorem Run.SameButWarnings.fragmentText {run run' : Run String} (h : run.SameButWarnings hidden run') :
    run'.fragmentText = run.fragmentText := by
  obtain ⟨w, warns, hcanvas, -⟩ := h.canvas
  unfold Run.fragmentText
  rw [h.result, hcanvas]

end

mutual

/-- **A program that asks nothing hidden**, of which the warnings are a part, does the same whatever has been
warned of. -/
theorem Program.run_sameButWarnings (world : World) {hidden : Query → Prop}
    (hwarnings : ∀ query, query.OfWarnings → hidden query) {σ : Type} [Sink σ] (p : Program)
    (hp : p.Avoids hidden) {c d : Canvas σ} (h : c.SameButWarnings hidden d) :
    (p.run world c).SameButWarnings hidden (p.run world d) := by
  cases p with
  | done result => exact ⟨h, rfl, rfl⟩
  | snippet location =>
    unfold Program.run
    cases loadText world location with
    | ok text =>
      obtain ⟨hresult, hone⟩ := h.perform (.text (some text) .noEscape)
      exact ⟨hone, hresult, rfl⟩
    | error e => exact ⟨h, rfl, rfl⟩
  | write operations next =>
    obtain ⟨hresult, hwritten⟩ := h.performAll (operations c.context)
    rw [run_write, run_write, h.context, hresult]
    exact ((next _).run_sameButWarnings world hwarnings (hp _) hwritten).after (h.entry hwritten rfl _ rfl) _ _
  | writeWithId operations next =>
    obtain ⟨hid, hissued⟩ := h.nextId
    obtain ⟨hresult, hwritten⟩ := hissued.performAll (operations c.nextId.1)
    rw [run_writeWithId, run_writeWithId, hid, hresult]
    exact ((next _).run_sameButWarnings world hwarnings (hp _) hwritten).after (h.entry hwritten rfl _ rfl) _ _
  | render component next =>
    have hinner := component.run_sameButWarnings world hwarnings hp.1 h.enterFrame
    have hleft := hinner.canvas.leaveFrame
    rw [run_render, run_render, hinner.result]
    exact ((next _).run_sameButWarnings world hwarnings (hp.2 _) hleft).after
      (h.entry hleft rfl _ hinner.inner) _ _
  | conditional condition body next =>
    cases condition with
    | true =>
      have hbody := body.pass_sameButWarnings world hwarnings hp.1 h
      rw [run_written_region, run_written_region, hbody.ending, hbody.kept]
      exact ((next _).run_sameButWarnings world hwarnings (hp.2 _) hbody.canvas).after
        (h.entry hbody.canvas rfl _ hbody.inner) _ _
    | false =>
      rw [run_skipped_region, run_skipped_region]
      exact ((next _).run_sameButWarnings world hwarnings (hp.2 _) h).after (h.entry h rfl _ rfl) _ _
  | fragment component next =>
    have hinner := component.run_sameButWarnings world hwarnings hp.1 h.fragment.enterFrame
    -- the fragments begin with the warnings of their canvases and give them back with more
    have htold := h.afterFragment (component.run world c.fragment.enterFrame)
      (component.run world d.fragment.enterFrame)
    rw [run_fragment, run_fragment, hinner.fragmentText]
    exact ((next _).run_sameButWarnings world hwarnings (hp.2 _) htold).after
      (h.entry htold rfl _ hinner.inner) _ _
  | flush next =>
    obtain ⟨hresult, hflushed⟩ := h.flush
    rw [run_flush, run_flush, hresult]
    exact ((next _).run_sameButWarnings world hwarnings (hp _) hflushed).after (h.entry hflushed rfl _ rfl) _ _
  | nextId next =>
    obtain ⟨hid, hissued⟩ := h.nextId
    rw [run_nextId, run_nextId, hid]
    exact ((next _).run_sameButWarnings world hwarnings (hp _) hissued).after (h.entry hissued rfl _ rfl) _ _
  | context steps next =>
    obtain ⟨hentries, hbound⟩ := h.bindAll hp.1
    have hanswers : (d.bindEntries steps).map (·.answer) = (c.bindEntries steps).map (·.answer) := by
      have hmapped := congrArg (List.map (·.answer)) hentries
      rw [List.map_map, List.map_map] at hmapped
      exact hmapped
    have hremark : (Remark.context (d.bindEntries steps)).unwarned =
      (Remark.context (c.bindEntries steps)).unwarned := congrArg Remark.context hentries
    rw [run_context, run_context, hanswers]
    exact ((next _).run_sameButWarnings world hwarnings (hp.2 _) hbound).after
      (h.entry hbound hremark _ rfl) _ _
  | inspect query next =>
    rw [run_inspect, run_inspect, h.look hwarnings hp.1]
    exact ((next _).run_sameButWarnings world hwarnings (hp.2 _) h).after (h.entry h rfl _ rfl) _ _

/-- The same of a region that is written. -/
theorem Region.pass_sameButWarnings (world : World) {hidden : Query → Prop}
    (hwarnings : ∀ query, query.OfWarnings → hidden query) {σ : Type} [Sink σ] (body : Region)
    (hbody : body.Avoids hidden) {c d : Canvas σ} (h : c.SameButWarnings hidden d) :
    (body.pass world c).SameButWarnings hidden (body.pass world d) := by
  cases body with
  | leave ending kept => exact ⟨h, rfl, rfl, rfl⟩
  | write operations next =>
    obtain ⟨hresult, hwritten⟩ := h.performAll operations
    rw [pass_write, pass_write, hresult]
    exact ((next _).pass_sameButWarnings world hwarnings (hbody _) hwritten).after
      (h.entry hwritten rfl _ rfl) _ _
  | render component next =>
    have hinner := component.run_sameButWarnings world hwarnings hbody.1 h.enterFrame
    have hleft := hinner.canvas.leaveFrame
    rw [pass_render, pass_render, hinner.result]
    exact ((next _).pass_sameButWarnings world hwarnings (hbody.2 _) hleft).after
      (h.entry hleft rfl _ hinner.inner) _ _
  | conditional condition body next =>
    cases condition with
    | true =>
      have hinner := body.pass_sameButWarnings world hwarnings hbody.1 h
      rw [pass_written_region, pass_written_region, hinner.ending, hinner.kept]
      exact ((next _).pass_sameButWarnings world hwarnings (hbody.2 _) hinner.canvas).after
        (h.entry hinner.canvas rfl _ hinner.inner) _ _
    | false =>
      rw [pass_skipped_region, pass_skipped_region]
      exact ((next _).pass_sameButWarnings world hwarnings (hbody.2 _) h).after (h.entry h rfl _ rfl) _ _

end

end Hypertext
