import Hypertext.Proofs.Canvas.Surroundings

/-!
# Operations as emissions

Every operation emits something to the sink and then changes the end tags of the open elements, knowing no
more of the sink than whether the emission succeeded.

* `Operation.emission`: what an operation emits, given the escape handler and the open elements.
* `Operation.leaves`: the open elements after it, given its result.
* `Canvas.perform_eq`: performing an operation is running its emission. This is all that the modules about
  whole runs have to know of single operations.
* `Operation.emission_of_parts`: what holds of the parts of which operations put their emissions together.
* `Operation.emission_appends`: an operation only gives text to the sink. On a text it appends what it appends
  to the empty one (`Emission.Appends.run_text`).
* `Sink.Closed`, `Canvas.perform_preserves`: what appending preserves, operations preserve.
* `Operation.Underflows`: closing where nothing is open. Any other operation is blind to the elements further
  out (`Operation.emission_append`, `Operation.leaves_append`).
* `Canvas.afterEach`, `Canvas.resultsOfEach`: operations in a row, performed whatever comes of them.
-/

namespace Hypertext

namespace Operation

/-- The emission of the beginning of a tag, which is put together before. -/
def startEmission (handler : Option EscapeHandler) (name : String) (attributes : Option Carrier) :
    Emission CanvasError :=
  if name = "" then .done (.error .nullTag)
  else
    match Canvas.stage handler name attributes with
    | .ok markup => .put .io markup
    | .error e => .done (.error e)

/-- What an operation emits where these elements are open. -/
def emission (handler : Option EscapeHandler) (openTags : List String) : Operation → Emission CanvasError
  | .openTag name attributes => (startEmission handler name attributes).andThen (.putChar .io '>')
  | .voidTag name attributes => (startEmission handler name attributes).andThen (.put .io "/>")
  | .closeTag =>
    match openTags with
    | [] => .done (.error .emptyStack)
    | endTag :: _ => .put .io endTag
  | .closeExpecting expected =>
    match openTags with
    | [] => .done (.error .emptyStack)
    | found :: _ =>
      if found = expected then .put .io found else .done (.error (.unexpectedTag expected found))
  | .text none _ => Emission.nothing
  | .text (some t) policy => emissionUnder handler t policy
  | .char c => .putChar .io c
  | .rawBlock opening content _ => (Emission.put .io opening).andThen (.put .io content)

section

variable {P : Emission CanvasError → Prop} {handler : Option EscapeHandler}

theorem startEmission_of_parts (hdone : ∀ r, P (.done r)) (hput : ∀ text, P (.put .io text)) (name : String)
    (attributes : Option Carrier) : P (startEmission handler name attributes) := by
  unfold startEmission
  split
  · exact hdone _
  · split
    · exact hput _
    · exact hdone _

/-- **The parts of an emission**: what holds of endings, of texts and characters put on the sink and of what the
escape handler emits, and goes over to one emission after the other, holds of the emission of every operation. -/
theorem emission_of_parts (hdone : ∀ r, P (.done r)) (hput : ∀ text, P (.put .io text))
    (hputChar : ∀ c, P (.putChar .io c)) (handThen : ∀ e e', P e → P e' → P (e.andThen e'))
    (hescaped : ∀ escape, handler = some escape → ∀ text, P ((escape text).mapError .io)) (openTags : List String)
    (operation : Operation) : P (operation.emission handler openTags) := by
  cases operation with
  | openTag name attributes => exact handThen _ _ (startEmission_of_parts hdone hput name attributes) (hputChar '>')
  | voidTag name attributes => exact handThen _ _ (startEmission_of_parts hdone hput name attributes) (hput "/>")
  | closeTag =>
    cases openTags with
    | nil => exact hdone _
    | cons endTag openTags => exact hput endTag
  | closeExpecting expected =>
    cases openTags with
    | nil => exact hdone _
    | cons found openTags =>
      unfold emission
      dsimp only
      split
      · exact hput found
      · exact hdone _
  | text t policy =>
    cases t with
    | none => exact hdone _
    | some t =>
      cases policy with
      | noEscape => exact hput t
      -- the only emission that is not made here
      | escapeChars =>
        cases handler with
        | none => exact hdone _
        | some escape => exact hescaped escape rfl t
  | char c => exact hputChar c
  | rawBlock opening content closing => exact handThen _ _ (hput opening) (hput content)

end

/-- **An operation only gives text to the sink.** Whatever writes attributes writes them to a text first. -/
theorem emission_appends (handler : Option EscapeHandler) (openTags : List String) (operation : Operation) :
    (operation.emission handler openTags).Appends :=
  emission_of_parts (fun _ => trivial) (Emission.appends_put _) (Emission.appends_putChar _)
    (fun _ _ hfirst hsecond => hfirst.andThen hsecond)
    (fun escape _ text => (escape.appends text).mapError CanvasError.io) openTags operation

/-- The open elements after an operation with this result. What is closed is closed even if its end tag could
not be written. -/
def leaves (openTags : List String) : Operation → Except CanvasError Unit → List String
  | .openTag name _, .ok () => ("</" ++ name ++ ">") :: openTags
  | .rawBlock _ _ closing, .ok () => closing :: openTags
  | .closeTag, _ => openTags.tail
  | .closeExpecting expected, _ => if openTags.head? = some expected then openTags.tail else openTags
  | _, _ => openTags

/-- The operation closes an element where none is open. -/
def Underflows (openTags : List String) : Operation → Prop
  | .closeTag => openTags = []
  | .closeExpecting _ => openTags = []
  | _ => False

section

variable {operation : Operation} {openTags : List String}

/-- Elements further out make no difference to what is emitted, unless something is closed below. -/
theorem emission_append (h : ¬ operation.Underflows openTags) (handler : Option EscapeHandler)
    (outer : List String) :
    operation.emission handler (openTags ++ outer) = operation.emission handler openTags := by
  cases operation with
  | closeTag =>
    cases openTags with
    | nil => exact absurd rfl h
    | cons endTag openTags => rfl
  | closeExpecting expected =>
    cases openTags with
    | nil => exact absurd rfl h
    | cons endTag openTags => rfl
  | text t policy => cases t <;> rfl
  | openTag | voidTag | char | rawBlock => rfl

/-- Elements further out stay open, unless something is closed below. -/
theorem leaves_append (h : ¬ operation.Underflows openTags) (r : Except CanvasError Unit)
    (outer : List String) : operation.leaves (openTags ++ outer) r = operation.leaves openTags r ++ outer := by
  cases operation with
  | closeTag =>
    cases openTags with
    | nil => exact absurd rfl h
    | cons endTag openTags => rfl
  | closeExpecting expected =>
    cases openTags with
    | nil => exact absurd rfl h
    | cons endTag openTags =>
      have hleaves : ∀ endTags, (closeExpecting expected).leaves endTags r =
        if endTags.head? = some expected then endTags.tail else endTags := fun _ => rfl
      rw [hleaves, hleaves, List.cons_append, List.head?_cons, List.head?_cons]
      split <;> rfl
  | openTag | rawBlock => cases r <;> rfl
  | voidTag | text | char => rfl

end

end Operation

/-- Appending, and flushing if that is allowed, preserves what is said of a sink. -/
structure Sink.Closed {σ : Type} [Sink σ] (flushes : Prop) (P : σ → Prop) : Prop where
  append : ∀ text s, P s → P (Sink.append text s).1
  appendChar : ∀ ch s, P s → P (Sink.appendChar ch s).1
  flush : flushes → ∀ s, P s → P (Sink.flush s).1

namespace Emission

variable {ε : Type}

/-- **On a text** an emission that only appends leaves more, and ends, as on an empty text. -/
theorem Appends.run_text {e : Emission ε} (h : e.Appends) (before : String) :
    e.run before = (before ++ (e.run "").1, (e.run "").2) := by
  induction e generalizing before with
  | done r =>
    have hnothing : before ++ "" = before := String.append_empty
    exact congrArg (·, r) hnothing.symm
  | append t next ih =>
    have hstep : ∀ start : String, (append t next).run start = (next (.ok ())).run (start ++ t) := fun _ => rfl
    rw [hstep, hstep, ih _ (h _) (before ++ t), ih _ (h _) ("" ++ t), String.empty_append, String.append_assoc]
  | appendChar c next ih =>
    have hstep : ∀ start : String, (appendChar c next).run start = (next (.ok ())).run (start.push c) :=
      fun _ => rfl
    rw [hstep, hstep, ih _ (h _) (before.push c), ih _ (h _) ("".push c), String.push_eq_append,
      String.push_eq_append, String.empty_append, String.append_assoc]
  | flush next => exact h.elim
  | written next => exact h.elim

/-- What appending preserves, emissions that only append preserve. -/
theorem Appends.run_preserves {σ : Type} [Sink σ] {flushes : Prop} {P : σ → Prop} (hP : Sink.Closed flushes P)
    {e : Emission ε} (he : e.Appends) {s : σ} (h : P s) : P (e.run s).1 := by
  induction e generalizing s with
  | done r => exact h
  | append t next ih => exact ih _ (he _) (hP.append t s h)
  | appendChar c next ih => exact ih _ (he _) (hP.appendChar c s h)
  | flush next => exact he.elim
  | written next => exact he.elim

end Emission

namespace Canvas

variable {σ : Type}

/-- The record of warnings after an operation. -/
def warnedBy (c : Canvas σ) : Operation → Warnings
  | .openTag name _ => if name = "" then c.warnings else (c.warnOfObsolete name).warnings
  | .voidTag name _ => if name = "" then c.warnings else (c.warnOfObsolete name).warnings
  | _ => c.warnings

/-- Which warnings an operation adds depends on the settings and on those given before. -/
theorem warnedBy_congr {τ : Type} {c : Canvas σ} {d : Canvas τ} (hconfig : d.config = c.config)
    (hwarnings : d.warnings = c.warnings) (operation : Operation) :
    d.warnedBy operation = c.warnedBy operation := by
  have hobsolete : ∀ name, (d.warnOfObsolete name).warnings = (c.warnOfObsolete name).warnings := by
    intro name
    unfold warnOfObsolete
    rw [hconfig, hwarnings]
    split
    · rfl
    · exact hwarnings
  unfold warnedBy
  split
  · rw [hobsolete, hwarnings]
  · rw [hobsolete, hwarnings]
  · exact hwarnings

variable [Sink σ]

/-- The canvas and the result after an emission, which leaves these elements open. -/
def emit (c : Canvas σ) (e : Emission CanvasError) (openTags : Except CanvasError Unit → List String)
    (warnings : Warnings) : Canvas σ × Except CanvasError Unit :=
  ({ c with sink := (e.run c.sink).1, openTags := openTags (e.run c.sink).2, warnings }, (e.run c.sink).2)

theorem writeStart_eq (name : String) (attributes : Option Carrier) (c : Canvas σ) :
    writeStart name attributes c =
      c.emit (Operation.startEmission c.config.handler name attributes) (fun _ => c.openTags)
        (if name = "" then c.warnings else (c.warnOfObsolete name).warnings) := by
  obtain ⟨warnings, hwarned⟩ := c.warnOfObsolete_eq name
  unfold writeStart Operation.startEmission
  by_cases hname : name = ""
  · rw [if_pos hname, if_pos hname, if_pos hname]
    rfl
  · rw [if_neg hname, if_neg hname, if_neg hname, hwarned]
    dsimp only
    cases stage c.config.handler name attributes with
    | ok markup => rfl
    | error e => rfl

theorem append_eq (text : String) (c : Canvas σ) :
    append text c = c.emit (.put .io text) (fun _ => c.openTags) c.warnings := rfl

/-- A step that emits, and after it another one that emits and then changes the open elements. -/
theorem emit_andThen {first rest : Attempt CanvasError (Canvas σ)} {c : Canvas σ}
    {e e' : Emission CanvasError} {openTags : Except CanvasError Unit → List String} {w : Warnings}
    (hfirst : first c = c.emit e (fun _ => c.openTags) w)
    (hfail : ∀ cause, openTags (.error cause) = c.openTags)
    (hrest : ∀ s, rest { c with sink := s, warnings := w } =
      emit { c with sink := s, warnings := w } e' openTags w) :
    first.andThen rest c = c.emit (e.andThen e') openTags w := by
  unfold Attempt.andThen
  rw [hfirst]
  unfold emit
  rw [Emission.run_andThen]
  unfold Attempt.andThen
  generalize e.run c.sink = after
  obtain ⟨s, r⟩ := after
  cases r with
  | ok u => exact hrest s
  | error cause => simp only [hfail]

/-- Something put on the stack of open elements once a step that emits has succeeded. -/
theorem emit_push {step : Attempt CanvasError (Canvas σ)} {c : Canvas σ} {e : Emission CanvasError}
    {w : Warnings} (hstep : step c = c.emit e (fun _ => c.openTags) w) (endTag : String)
    {openTags : Except CanvasError Unit → List String} (hok : openTags (.ok ()) = endTag :: c.openTags)
    (hfail : ∀ cause, openTags (.error cause) = c.openTags) :
    step.andThen (push endTag) c = c.emit e openTags w := by
  unfold Attempt.andThen
  rw [hstep]
  unfold emit
  generalize e.run c.sink = after
  obtain ⟨s, r⟩ := after
  cases r with
  | ok u => simp only [hok, push]
  | error cause => simp only [hfail]

/-- **Performing an operation** runs its emission, and the result decides which elements are open. -/
theorem perform_eq (operation : Operation) (c : Canvas σ) :
    c.perform operation =
      c.emit (operation.emission c.config.handler c.openTags) (operation.leaves c.openTags)
        (c.warnedBy operation) := by
  cases operation with
  | openTag name attributes =>
    exact emit_andThen (writeStart_eq name attributes c) (fun _ => rfl) fun s =>
      emit_push rfl ("</" ++ name ++ ">") rfl fun _ => rfl
  | voidTag name attributes =>
    exact emit_andThen (writeStart_eq name attributes c) (fun _ => rfl) fun s => rfl
  | closeTag =>
    obtain ⟨sink, openTags, context, lastId, config, warnings⟩ := c
    cases openTags <;> rfl
  | closeExpecting expected =>
    obtain ⟨sink, openTags, context, lastId, config, warnings⟩ := c
    cases openTags with
    | nil => rfl
    | cons found openTags =>
      have hhead : (found :: openTags).head? = some expected ↔ found = expected := by
        rw [List.head?_cons, Option.some_inj]
      unfold perform closeExpecting Operation.emission emit Operation.leaves
      dsimp only
      by_cases hfound : found = expected
      · rw [if_pos hfound, if_pos hfound, if_pos (hhead.mpr hfound)]
        rfl
      · rw [if_neg hfound, if_neg hfound, if_neg (mt hhead.mp hfound)]
        rfl
  | text t policy => cases t <;> rfl
  | char ch => rfl
  | rawBlock opening content closing =>
    exact emit_andThen (append_eq opening c) (fun _ => rfl) fun s =>
      emit_push rfl closing rfl fun _ => rfl

theorem perform_result (operation : Operation) (c : Canvas σ) :
    (c.perform operation).2 = ((operation.emission c.config.handler c.openTags).run c.sink).2 := by
  rw [perform_eq]
  rfl

theorem perform_sink (operation : Operation) (c : Canvas σ) :
    (c.perform operation).1.sink = ((operation.emission c.config.handler c.openTags).run c.sink).1 := by
  rw [perform_eq]
  rfl

theorem perform_openTags (operation : Operation) (c : Canvas σ) :
    (c.perform operation).1.openTags = operation.leaves c.openTags (c.perform operation).2 := by
  rw [perform_eq]
  rfl

/-- What appending preserves, operations preserve. -/
theorem perform_preserves {flushes : Prop} {P : σ → Prop} (hP : Sink.Closed flushes P) (operation : Operation)
    {c : Canvas σ} (h : P c.sink) : P (c.perform operation).1.sink := by
  rw [perform_sink]
  exact (operation.emission_appends _ _).run_preserves hP h

/-- What closes an element where none is open fails. -/
theorem perform_of_underflows {operation : Operation} {c : Canvas σ}
    (h : operation.Underflows c.openTags) : c.perform operation = (c, .error .emptyStack) := by
  obtain ⟨sink, openTags, context, lastId, config, warnings⟩ := c
  cases operation with
  | closeTag =>
    obtain rfl : openTags = [] := h
    rfl
  | closeExpecting expected =>
    obtain rfl : openTags = [] := h
    rfl
  | openTag | voidTag | text | char | rawBlock => exact h.elim

/-- **On a text** an operation appends what its emission leaves of an empty text. -/
theorem perform_text (operation : Operation) (c : Canvas String) :
    let alone := (operation.emission c.config.handler c.openTags).run ""
    c.perform operation =
      ({ c with
          sink := c.sink ++ alone.1
          openTags := operation.leaves c.openTags alone.2
          warnings := c.warnedBy operation }, alone.2) := by
  intro alone
  rw [perform_eq]
  unfold emit
  rw [(operation.emission_appends _ _).run_text]

/-- The canvas after operations that are performed in order, whatever comes of them. -/
def afterEach (operations : List Operation) (c : Canvas σ) : Canvas σ :=
  operations.foldl (fun c operation => (c.perform operation).1) c

/-- The results of operations that are performed in order, whatever comes of them. -/
def resultsOfEach : List Operation → Canvas σ → List (Except CanvasError Unit)
  | [], _ => []
  | operation :: operations, c =>
    (c.perform operation).2 :: resultsOfEach operations (c.perform operation).1

/-- What appending preserves, operations in a row preserve. -/
theorem afterEach_preserves {flushes : Prop} {P : σ → Prop} (hP : Sink.Closed flushes P)
    (operations : List Operation) {c : Canvas σ} (h : P c.sink) : P (c.afterEach operations).sink := by
  induction operations generalizing c with
  | nil => exact h
  | cons operation operations ih => exact ih (perform_preserves hP operation h)

theorem afterEach_append (operations operations' : List Operation) (c : Canvas σ) :
    c.afterEach (operations ++ operations') = (c.afterEach operations).afterEach operations' :=
  List.foldl_append

end Canvas

end Hypertext
