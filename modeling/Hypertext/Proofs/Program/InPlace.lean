import Hypertext.Proofs.Canvas.Operations
import Hypertext.Proofs.Program.Coupling

/-!
# Fragments and rendering in place

A fragment is written to a canvas of its own, which begins empty. Rendered in place, the same component writes
behind a text and inside elements that are there already.

* `Canvas.above`: a canvas as it would be if it had been written behind another one.
* `Act.TellsApart`: what shows on which of the two a component is: closing an element where none is open, and
  taking an identifier if some have been taken.
* `aboveCoupling`: nothing else does, unless the component looks at the markup.
* `fragment_eq_render`: a fragment is the text that rendering appends.
-/

namespace Hypertext

/-- Whether the question is about the markup written so far. -/
def Query.OfMarkup : Query → Prop
  | .pending => True
  | .balanced => True
  | .output => True
  | _ => False

namespace Act

/-- Whether an element was to be closed where none was open. -/
def underflows : Act → Bool
  | .wrote .closeTag (.error .emptyStack) _ => true
  | .wrote (.closeExpecting _) (.error .emptyStack) _ => true
  | _ => false

/-- Whether an identifier was taken. -/
def issues : Act → Bool
  | .issued _ => true
  | _ => false

/-- The act comes out differently where elements are open and so many identifiers have been taken. -/
def TellsApart (lastId : UInt64) (act : Act) : Prop :=
  act.underflows ∨ lastId ≠ 0 ∧ act.issues

theorem underflows_of_operation {operation : Operation} {openTags : List String}
    (h : operation.Underflows openTags) (openTags' : List String) :
    (Act.wrote operation (.error .emptyStack) openTags').underflows := by
  cases operation with
  | closeTag | closeExpecting => rfl
  | openTag | voidTag | text | char | rawBlock => exact h.elim

end Act

namespace Canvas

/-- The canvas as it would be if it had been begun on another one. -/
def above (f c : Canvas String) : Canvas String :=
  { f with sink := c.sink ++ f.sink, openTags := f.openTags ++ c.openTags, lastId := c.lastId + f.lastId }

/-- **An operation on a canvas begun on another one** does what it would do by itself, unless it closes an
element of the other one. -/
theorem perform_above {operation : Operation} {f : Canvas String} (h : ¬ operation.Underflows f.openTags)
    (c : Canvas String) :
    (f.above c).perform operation = ((f.perform operation).1.above c, (f.perform operation).2) := by
  have hemission : operation.emission (f.above c).config.handler (f.above c).openTags =
    operation.emission f.config.handler f.openTags := operation.emission_append h _ c.openTags
  have hleaves := fun r => operation.leaves_append h r c.openTags
  have hwarned : (f.above c).warnedBy operation = f.warnedBy operation :=
    warnedBy_congr (c := f) (d := f.above c) rfl rfl operation
  rw [perform_text, perform_text, hemission, hwarned]
  unfold above
  rw [hleaves, String.append_assoc]

end Canvas

/-- A fragment has a text exactly if it succeeds. -/
theorem Run.fragmentText_eq_ok (fragment : Run String) {text : String} :
    fragment.fragmentText = .ok text ↔ fragment.result = .ok () ∧ fragment.canvas.sink = text := by
  unfold fragmentText
  cases fragment.result with
  | ok u => exact ⟨fun h => ⟨rfl, Except.ok.inj h⟩, fun h => congrArg Except.ok h.2⟩
  | error e => exact ⟨nofun, nofun⟩

/-- **What a component does by itself it does on another canvas**, until it tells the two apart. -/
theorem aboveCoupling (c : Canvas String) :
    Canvas.Coupling String String Query.OfMarkup True (fun f _ d _ => d = f.above c)
      (fun _ acts _ _ => ∃ act ∈ acts, act.TellsApart c.lastId) where
  shared := by
    rintro f acts _ acts' rfl
    rfl
  look := by
    rintro f acts _ acts' rfl query hquery
    cases query with
    | pending | balanced | output => exact absurd trivial hquery
    | config | hasWarned => rfl
  wrote := by
    rintro f acts _ acts' rfl operation
    by_cases hunder : operation.Underflows f.openTags
    · rw [Canvas.perform_of_underflows hunder]
      exact .inr ⟨_, List.mem_append_right _ List.mem_cons_self, .inl (Act.underflows_of_operation hunder _)⟩
    · rw [Canvas.perform_above hunder]
      exact .inl ⟨rfl, rfl⟩
  flushed := by
    rintro - f acts _ acts' rfl
    exact .inl ⟨rfl, rfl⟩
  issued := by
    rintro f acts _ acts' rfl
    by_cases hzero : c.lastId = 0
    · refine .inl ⟨?_, ?_⟩
      · have hcount : (f.above c).lastId = f.lastId := by
          unfold Canvas.above
          rw [hzero, UInt64.zero_add]
        unfold Canvas.nextId
        rw [hcount]
        rfl
      · have hcount : c.lastId + f.lastId + 1 = c.lastId + (f.lastId + 1) := UInt64.add_assoc _ _ _
        unfold Canvas.nextId Canvas.above
        dsimp only
        rw [hcount]
    · exact .inr ⟨_, List.mem_append_right _ List.mem_cons_self, .inr ⟨hzero, rfl⟩⟩
  bound := by
    rintro f acts _ acts' rfl step
    rfl
  enter := by
    rintro f acts _ acts' rfl
    rfl
  leave := by
    rintro f acts _ acts' rfl
    rfl
  fragment := by
    rintro f acts _ acts' rfl inner w
    rfl
  later := by
    rintro _ acts _ _ ⟨act, hact, htells⟩ more _
    exact ⟨act, List.mem_append_left _ hact, htells⟩
  left _ _ _ := ⟨fun _ _ h => h, fun _ _ h => h, fun _ _ h => h⟩
  right _ _ _ := ⟨fun _ _ h => h, fun _ _ h => h, fun _ _ h => h⟩

/-- **A fragment is what rendering in place appends.** Let a component look at no markup, let it close
nothing below its start when it is written as a fragment, and let it take no identifier unless the canvas has
given out none. Asking for the fragment changes nothing on the canvas but the record of warnings, which is the
one that rendering leaves, whatever is done with the answer. The answer is an error exactly if rendering ends in
it, and otherwise it is the text that rendering appends; and the elements that the component leaves open in the
fragment are those that rendering leaves open on top of the open ones. -/
theorem fragment_eq_render (world : World) (c : Canvas String) (component : Program)
    (hlook : component.Ignores Query.OfMarkup True) :
    let fragment := component.run world c.fragment.enterFrame
    let answer := fragment.fragmentText
    let rendered := (Program.render component .done).run world c
    (∀ act ∈ fragment.acts, ¬ act.underflows) → (c.lastId = 0 ∨ ∀ act ∈ fragment.acts, ¬ act.issues) →
      (∀ next, (Program.fragment component next).run world c =
        let warned := { c with warnings := rendered.canvas.warnings }
        ((next answer).run world warned).after
          (c.entry warned (.fragment answer) none (some fragment.log)) [.fragment fragment.acts]) ∧
      rendered.result = answer.map (fun _ => ()) ∧
      (∀ text, answer = .ok text → rendered.canvas.sink = c.sink ++ text) ∧
      rendered.canvas.openTags = fragment.canvas.openTags ++ c.openTags := by
  intro fragment answer rendered hclose hids
  have hstart : c.enterFrame = c.fragment.enterFrame.above c := by
    have hlast : c.lastId + 0 = c.lastId := UInt64.add_zero _
    unfold Canvas.above Canvas.enterFrame Canvas.fragment
    dsimp only
    rw [String.append_empty, List.nil_append, hlast]
  have hcoupled : Run.Coupled _ _ fragment [] (component.run world c.enterFrame) [] :=
    component.run_coupled world (aboveCoupling c) hlook hstart
  have htogether : ¬ ∃ act ∈ [] ++ fragment.acts, act.TellsApart c.lastId := by
    rintro ⟨act, hact, hunder | ⟨hzero, hissues⟩⟩
    · exact hclose act hact hunder
    · exact (hids.resolve_left hzero) act hact hissues
  obtain ⟨hresult, habove⟩ := hcoupled.resolve_right htogether
  have hrendered : rendered.result = fragment.result := hresult.symm
  have hcanvas : rendered.canvas = (fragment.canvas.above c).leaveFrame := congrArg Canvas.leaveFrame habove
  refine ⟨fun next => ?_, ?_, fun text htext => ?_, ?_⟩
  · have hwarnings : rendered.canvas.warnings = fragment.canvas.warnings := by rw [hcanvas]; rfl
    rw [hwarnings]
    rfl
  · rw [hrendered]
    unfold answer Run.fragmentText
    cases fragment.result <;> rfl
  · rw [hcanvas, ← (fragment.fragmentText_eq_ok.mp htext).2]
    rfl
  · rw [hcanvas]
    rfl

/-- A component that binds a word, names a paragraph by a fresh identifier, writes in it by another component
and in a region, and leaves a list open after the word. -/
theorem fragment_eq_render_open_list :
    let bold : Program := .write (fun _ => Markup.element .b (some "x & y")) .done
    let component : Program :=
      .context [.set "word" (.str "k")] fun _ =>
        .writeWithId (fun id => [.openTag "p" (some (.attributes [⟨"id", id, .escapeChars⟩]))]) fun _ =>
          .render bold fun _ =>
            .conditional true (.write [.char ';', .closeTag] fun _ => .leave .complete) fun _ =>
              .write (fun scope => Markup.text (Bindings.getString scope "word") ++ [.openTag "ul" none]) .done
    let c : Canvas String := { sink := "<div>", openTags := ["</div>"] }
    let fragment := component.run {} c.fragment.enterFrame
    let rendered := (Program.render component .done).run {} c
    (component.Ignores Query.OfMarkup True ∧ (∀ act ∈ fragment.acts, ¬ act.underflows) ∧ c.lastId = 0) ∧
      fragment.fragmentText = .ok "<p id=\"id1\"><b>x &amp; y</b>;</p>k<ul>" ∧
      rendered.result = .ok () ∧
      rendered.canvas.sink = "<div>" ++ "<p id=\"id1\"><b>x &amp; y</b>;</p>k<ul>" ∧
      rendered.canvas.openTags = ["</ul>", "</div>"] := by
  intro bold component c fragment rendered
  have hlook : component.Ignores Query.OfMarkup True := by
    simp [component, bold, Program.Ignores, Region.Ignores]
  have hclose : ∀ act ∈ fragment.acts, ¬ act.underflows := by decide +kernel
  have hok : fragment.result = .ok () := by
    have hsucceeds : fragment.result.isOk = true := by decide +kernel
    cases hr : fragment.result with
    | ok u => rfl
    | error e =>
      rw [hr] at hsucceeds
      cases hsucceeds
  have hwritten : fragment.canvas.sink = "<p id=\"id1\"><b>x &amp; y</b>;</p>k<ul>" := by decide +kernel
  have htext := fragment.fragmentText_eq_ok.mpr ⟨hok, hwritten⟩
  have hopen : fragment.canvas.openTags = ["</ul>"] := by decide +kernel
  obtain ⟨-, hresult, hsink, htags⟩ := fragment_eq_render {} c component hlook hclose (.inl rfl)
  rw [htext] at hresult
  rw [hopen] at htags
  exact ⟨⟨hlook, hclose, rfl⟩, htext, hresult, hsink _ htext, htags⟩

end Hypertext
