import Hypertext.Canvas.Operation

/-!
# What writing leaves alone

Writing markup changes the sink, the open elements and the record of warnings, and nothing else.

* `Canvas.SameSurroundings`: bindings, issued identifiers and settings are the same.
* `perform_keeps`: every operation, failed or not, keeps them.
-/

namespace Hypertext

/-- The bindings, the number of issued identifiers and the settings are the same. -/
structure Canvas.SameSurroundings {σ : Type} (c d : Canvas σ) : Prop where
  context : d.context = c.context
  lastId : d.lastId = c.lastId
  config : d.config = c.config

/-- Whatever comes of the step, it keeps the surroundings. -/
def Canvas.Keeps {σ ε : Type} (step : Attempt ε (Canvas σ)) : Prop :=
  ∀ c, Canvas.SameSurroundings c (step c).1

namespace Canvas

variable {σ ε : Type}

theorem SameSurroundings.refl (c : Canvas σ) : SameSurroundings c c := ⟨rfl, rfl, rfl⟩

theorem SameSurroundings.trans {c d e : Canvas σ} (h : SameSurroundings c d) (h' : SameSurroundings d e) :
    SameSurroundings c e :=
  ⟨h'.context.trans h.context, h'.lastId.trans h.lastId, h'.config.trans h.config⟩

theorem keeps_andThen {first second : Attempt ε (Canvas σ)} (h : Keeps first) (h' : Keeps second) :
    Keeps (first.andThen second) := by
  intro c
  have hfirst := h c
  unfold Attempt.andThen
  generalize first c = after at hfirst
  obtain ⟨d, r⟩ := after
  cases r with
  | ok u => exact hfirst.trans (h' d)
  | error e => exact hfirst

theorem keeps_onSink (step : Attempt CanvasError σ) : Keeps (onSink step) :=
  fun _ => ⟨rfl, rfl, rfl⟩

theorem keeps_push (endTag : String) : Keeps (push endTag : Attempt CanvasError (Canvas σ)) :=
  fun _ => ⟨rfl, rfl, rfl⟩

theorem warnOfObsolete_eq (name : String) (c : Canvas σ) :
    ∃ warnings, c.warnOfObsolete name = { c with warnings } := by
  unfold warnOfObsolete
  split
  · exact ⟨_, rfl⟩
  · exact ⟨c.warnings, rfl⟩

variable [Sink σ]

theorem keeps_writeStart (name : String) (attributes : Option Carrier) :
    Keeps (writeStart name attributes : Attempt CanvasError (Canvas σ)) := by
  intro c
  obtain ⟨warnings, hwarned⟩ := c.warnOfObsolete_eq name
  unfold writeStart
  rw [hwarned]
  split
  · exact SameSurroundings.refl c
  · dsimp only
    split <;> exact ⟨rfl, rfl, rfl⟩

theorem keeps_closeTag : Keeps (closeTag : Attempt CanvasError (Canvas σ)) := by
  intro c
  unfold closeTag
  split
  · exact SameSurroundings.refl c
  · exact ⟨rfl, rfl, rfl⟩

/-- Closing an element that is expected to be the innermost one closes the innermost one or fails. -/
theorem closeExpecting_cases (expected : String) (c : Canvas σ) :
    closeExpecting expected c = closeTag c ∨ ∃ e, closeExpecting expected c = (c, .error e) := by
  unfold closeExpecting
  split
  · exact .inr ⟨_, rfl⟩
  · split
    · exact .inl rfl
    · exact .inr ⟨_, rfl⟩

theorem keeps_closeExpecting (expected : String) :
    Keeps (closeExpecting expected : Attempt CanvasError (Canvas σ)) := by
  intro c
  rcases closeExpecting_cases expected c with hclose | ⟨e, hfail⟩
  · rw [hclose]
    exact keeps_closeTag c
  · rw [hfail]
    exact SameSurroundings.refl c

theorem keeps_text (t : Option String) (policy : EscapePolicy) :
    Keeps (text t policy : Attempt CanvasError (Canvas σ)) := by
  intro c
  cases t with
  | none => exact SameSurroundings.refl c
  | some t => exact keeps_onSink _ c

/-- **Every operation** keeps the surroundings, whether it fails or not. -/
theorem perform_keeps (operation : Operation) :
    Keeps (perform operation : Attempt CanvasError (Canvas σ)) := by
  cases operation with
  | openTag name attributes =>
    exact keeps_andThen (keeps_writeStart name attributes)
      (keeps_andThen (keeps_onSink _) (keeps_push _))
  | voidTag name attributes => exact keeps_andThen (keeps_writeStart name attributes) (keeps_onSink _)
  | closeTag => exact keeps_closeTag
  | closeExpecting expected => exact keeps_closeExpecting expected
  | text t policy => exact keeps_text t policy
  | char ch => exact keeps_onSink _
  | rawBlock opening content closing =>
    exact keeps_andThen (keeps_onSink _) (keeps_andThen (keeps_onSink _) (keeps_push _))

end Canvas

end Hypertext
