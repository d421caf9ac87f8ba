import Hypertext.Proofs.Canvas.Failures
import Hypertext.Proofs.Program.Warnings
import Hypertext.Sink.Pieces

/-!
# Refused operations leave no trace

An operation that does not fit where it is performed, and a tag whose attributes cannot be written, are refused
before the sink is asked for anything.

* `CanvasError.OfMarkup`: the causes that lie in the markup and the settings.
* `Canvas.Refuses`: an operation fails for such a cause, or because of its attributes.
* `Canvas.LeavesNoTrace`: what is then true of the canvas and of everything that is done to it afterwards.
* `refusals_leave_no_trace`: this holds of every operation that is refused.
-/

namespace Hypertext

/-- The cause lies in the markup and the settings, and in nothing that has been written. -/
def CanvasError.OfMarkup : CanvasError → Prop
  | .nullTag => True
  | .emptyStack => True
  | .unexpectedTag _ _ => True
  | .missingEscapeHandler => True
  | _ => False

/-- The name of the tag and what writes its attributes, if the operation writes a tag with attributes. -/
def Operation.tag? : Operation → Option (String × Carrier)
  | .openTag name (some carrier) => some (name, carrier)
  | .voidTag name (some carrier) => some (name, carrier)
  | _ => none

/-- The operation fails here for a cause that lies in the markup, or its attributes cannot be written under the
escape handler, even onto a text that begins the tag. -/
def Canvas.Refuses {σ : Type} [Sink σ] (c : Canvas σ) (operation : Operation) : Prop :=
  (∃ e, (c.perform operation).2 = .error e ∧ e.OfMarkup) ∨
    ∃ name carrier e, operation.tag? = some (name, carrier) ∧
      ((carrier.emission c.config.handler).run ("<" ++ name)).2 = .error e

/-- The runs end on the same canvas, except for warnings, and with the same result. -/
structure Run.EndAlike {σ : Type} (run run' : Run σ) : Prop where
  canvas : run.canvas.SameButWarnings Query.OfWarnings run'.canvas
  result : run'.result = run.result

/-- The operation fails with this cause and leaves nothing behind but warnings. -/
structure Canvas.LeavesNoTrace {σ : Type} [Sink σ] (world : World) (c : Canvas σ) (operation : Operation)
    (e : CanvasError) : Prop where
  /-- The sink is asked for nothing. -/
  refused : operation.RefusedWith c.config.handler c.openTags e
  /-- What has been written, the open elements, the bindings, the number of issued identifiers and the settings
  are as before. -/
  keeps : c.perform operation = ({ c with warnings := c.warnedBy operation }, .error e)
  /-- Every program that does not ask for warnings does the same afterwards. -/
  run : ∀ p : Program, p.Avoids Query.OfWarnings →
    (p.run world c).SameButWarnings Query.OfWarnings (p.run world (c.perform operation).1)
  /-- So does everything that is written in a region. -/
  pass : ∀ body : Region, body.Avoids Query.OfWarnings →
    (body.pass world c).SameButWarnings Query.OfWarnings (body.pass world (c.perform operation).1)
  /-- A program that attempts the operation ends as if it had gone on without the attempt. -/
  attempt : ∀ next : Except CanvasError Unit → Program, (next (.error e)).Avoids Query.OfWarnings →
    ((next (.error e)).run world c).EndAlike ((Program.write (fun _ => [operation]) next).run world c)
  /-- The same of an attempt in a region that is written. -/
  attemptWithin : ∀ (rest : Except CanvasError Unit → Region) (next : Outcome → Program),
    (Program.conditional true (rest (.error e)) next).Avoids Query.OfWarnings →
      ((Program.conditional true (rest (.error e)) next).run world c).EndAlike
        ((Program.conditional true (.write [operation] rest) next).run world c)

section

variable {σ : Type} [Sink σ] {c : Canvas σ} {operation : Operation} {e : CanvasError}

theorem CanvasError.OfMarkup.not_ofIo (h : e.OfMarkup) : ¬ Operation.OfIo e := by
  rintro ⟨cause, rfl⟩
  exact h

/-- Attributes that cannot be written stop a tag before it begins. -/
theorem Operation.startEmission_of_carrier {handler : Option EscapeHandler} {name : String} {carrier : Carrier}
    (h : ((carrier.emission handler).run ("<" ++ name)).2 = .error e) :
    ∃ e, startEmission handler name (some carrier) = .done (.error e) := by
  unfold startEmission Canvas.stage
  split
  · exact ⟨_, rfl⟩
  · dsimp only
    generalize (carrier.emission handler).run ("<" ++ name) = after at h
    obtain ⟨markup, r⟩ := after
    obtain rfl : r = .error e := h
    exact ⟨e, rfl⟩

theorem Canvas.Refuses.refusedWith (h : c.Refuses operation) :
    ∃ e, operation.RefusedWith c.config.handler c.openTags e := by
  rcases h with ⟨e, hfails, hmarkup⟩ | ⟨name, carrier, e, htag, hfails⟩
  · rcases operation.refusedWith_or_io c.config.handler c.openTags with hrefused | hio
    · exact hrefused
    · rw [perform_result] at hfails
      exact absurd (hio.run hfails) hmarkup.not_ofIo
  · cases operation with
    | openTag name' attributes =>
      cases attributes with
      | none => cases htag
      | some carrier' =>
        obtain ⟨rfl, rfl⟩ := Prod.mk.inj (Option.some.inj htag)
        obtain ⟨e, hstart⟩ := Operation.startEmission_of_carrier hfails
        exact ⟨e, congrArg (Emission.andThen · (.putChar CanvasError.io '>')) hstart⟩
    | voidTag name' attributes =>
      cases attributes with
      | none => cases htag
      | some carrier' =>
        obtain ⟨rfl, rfl⟩ := Prod.mk.inj (Option.some.inj htag)
        obtain ⟨e, hstart⟩ := Operation.startEmission_of_carrier hfails
        exact ⟨e, congrArg (Emission.andThen · (.put CanvasError.io "/>")) hstart⟩
    | closeTag | closeExpecting | text | char | rawBlock => cases htag

end

/-- **Refused operations leave no trace.** On any canvas over any sink, let an operation fail for a cause that
lies in the markup, or because its attributes cannot be written, whatever writes them and whatever the escape
handler has written before it failed. Then the sink is asked for nothing, only warnings may have been added, and
everything that is done afterwards and does not ask for warnings, to the canvas or within a region, is done as if
the operation had not been attempted. -/
theorem refusals_leave_no_trace (world : World) {σ : Type} [Sink σ] (c : Canvas σ) (operation : Operation)
    (h : c.Refuses operation) : ∃ e, c.LeavesNoTrace world operation e := by
  obtain ⟨e, hrefused⟩ := h.refusedWith
  have hkeeps := Canvas.perform_of_refusedWith hrefused
  have hsame : c.SameButWarnings Query.OfWarnings (c.perform operation).1 := by
    rw [hkeeps]
    exact ⟨_, _, rfl, .inr rfl⟩
  have hfails : (c.perform operation).2 = .error e := congrArg Prod.snd hkeeps
  have hall := (performAll_cons_error c [] hfails).1
  have hwarnings : ∀ query : Query, query.OfWarnings → query.OfWarnings := fun _ => id
  have hrun : ∀ p : Program, p.Avoids Query.OfWarnings →
      (p.run world c).SameButWarnings Query.OfWarnings (p.run world (c.perform operation).1) :=
    fun p hp => p.run_sameButWarnings world hwarnings hp hsame
  have hpass : ∀ body : Region, body.Avoids Query.OfWarnings →
      (body.pass world c).SameButWarnings Query.OfWarnings (body.pass world (c.perform operation).1) :=
    fun body hbody => body.pass_sameButWarnings world hwarnings hbody hsame
  refine ⟨e, hrefused, hkeeps, hrun, hpass, fun next hnext => ?_, fun rest next hboth => ?_⟩
  · have hafter := hrun _ hnext
    rw [run_write, hall, hfails]
    exact ⟨hafter.canvas, hafter.result⟩
  -- within the region the attempt is one more entry of the log
  · have hbody := hpass _ hboth.1
    have hattempt : (Region.write [operation] rest).pass world c =
        ((rest (.error e)).pass world (c.perform operation).1).after
          (c.entry (c.perform operation).1 (.result (.error e)) none none) (c.acts [operation]) := by
      rw [pass_write, hall, hfails]
    rw [run_written_region, run_written_region, hattempt]
    unfold Region.Run.after
    dsimp only
    rw [hbody.ending, hbody.kept]
    have hafter := fun outcome =>
      (next outcome).run_sameButWarnings world hwarnings (hboth.2 outcome) hbody.canvas
    exact ⟨(hafter _).canvas, (hafter _).result⟩

/-- A font element whose title the escape handler refuses after it has written something, and a paragraph after
it: the only trace is the warning that the element is obsolete. -/
theorem refusals_leave_no_trace_failing_handler :
    let c : Canvas Pieces := { sink := {}, config := { handler := some EscapeHandler.refusing } }
    let font : Operation := .openTag "font" (some (.attributes [⟨"title", "x", .escapeChars⟩]))
    let paragraph : Program := .write (fun _ => [.openTag "p" none]) fun r => .done r
    (c.Refuses font ∧ paragraph.Avoids Query.OfWarnings) ∧
      (c.perform font).1.sink.pieces = [] ∧
      (c.perform font).1.warnings.recorded = ["[Canvas] <font> is an obsolete element"] ∧
      (paragraph.run {} (c.perform font).1).result = (paragraph.run {} c).result := by
  intro c font paragraph
  have hrefuses : c.Refuses font := .inr ⟨_, _, _, rfl, rfl⟩
  have hparagraph : paragraph.Avoids Query.OfWarnings := fun _ => trivial
  obtain ⟨e, htrace⟩ := refusals_leave_no_trace {} c font hrefuses
  refine ⟨⟨hrefuses, hparagraph⟩, ?_, ?_, (htrace.run paragraph hparagraph).result⟩
  · rw [htrace.keeps]
    rfl
  · decide +kernel

end Hypertext
