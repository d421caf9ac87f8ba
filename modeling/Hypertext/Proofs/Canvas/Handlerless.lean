import Hypertext.Proofs.Canvas.Failures
import Hypertext.Sink.Pieces

/-!
# Canvases without an escape handler

Writes that escape cannot be made without an escape handler. They are refused, and everything else is written as
under any handler.

* `Operation.escapes`: the operation writes something that passes through the handler.
* `Carrier.AsksWhenNeeded`: what writes attributes fails for want of a handler, or comes to the same under every
  one. Lists of attributes and ready texts are so (`asksWhenNeeded_attributes`); a writer of one's own has to be.
* `refusedWith_of_escapes`, `emission_of_not_escapes`: what an operation does without a handler.
* `Canvas.SameButHandler`: two canvases that differ in their handlers and warnings only.
* `escaping_writes_vanish`: without a handler, operations in a row do what they do under any handler once those
  that escape have been struck out.
-/

namespace Hypertext

/-- The result is a failure for want of a handler. -/
def lacksHandler : Except CanvasError Unit → Bool
  | .error .missingEscapeHandler => true
  | _ => false

theorem lacksHandler_iff {r : Except CanvasError Unit} :
    lacksHandler r = true ↔ r = .error .missingEscapeHandler := by
  constructor
  · intro h
    cases r with
    | ok u => cases h
    | error e =>
      cases e with
      | missingEscapeHandler => rfl
      | nullTag | emptyStack | unexpectedTag | unbalancedRegion | io | resource => cases h
  · rintro rfl
    rfl

/-- The emission of attributes passes through the handler; one's own does if it fails for want of one after this
beginning of a tag. -/
def Carrier.escapes (start : String) : Carrier → Bool
  | .verbatim _ => false
  | .attributes list => list.any fun a => a.policy.escapes
  | .custom emission => lacksHandler ((emission none).run start).2

/-- The operation writes something that passes through the handler: a text, or the attributes of a tag that has a
name. -/
def Operation.escapes : Operation → Bool
  | .openTag name (some carrier) => name ≠ "" && carrier.escapes ("<" ++ name)
  | .voidTag name (some carrier) => name ≠ "" && carrier.escapes ("<" ++ name)
  | .text (some _) policy => policy.escapes
  | _ => false

/-- After this beginning of a tag the emission fails without a handler for want of one, or it comes to the same
under every handler. -/
def Carrier.AsksWhenNeeded (start : String) (carrier : Carrier) : Prop :=
  ((carrier.emission none).run start).2 = .error .missingEscapeHandler ∨
    ∀ handler, (carrier.emission handler).run start = (carrier.emission none).run start

/-- What writes the attributes of the tag, if the operation writes a tag, asks for a handler when it needs one. -/
def Operation.AsksWhenNeeded : Operation → Prop
  | .openTag name (some (.custom emission)) => (Carrier.custom emission).AsksWhenNeeded ("<" ++ name)
  | .voidTag name (some (.custom emission)) => (Carrier.custom emission).AsksWhenNeeded ("<" ++ name)
  | _ => True

/-! ### Attributes -/

/-- One emission after the other fails as the first does, and otherwise as the second. -/
theorem Emission.result_andThen {ε σ : Type} [Sink σ] (first second : Emission ε) (s : σ) :
    ((first.andThen second).run s).2 = (first.run s).2.bind fun _ => (second.run (first.run s).1).2 := by
  rw [run_andThen, Attempt.andThen]
  generalize first.run s = after
  obtain ⟨s', r⟩ := after
  cases r <;> rfl

/-- Without a handler an attribute fails exactly if its value is to be escaped. -/
theorem Attribute.result_emission_none (a : Attribute) (start : String) :
    ((a.emission none).run start).2 = if a.policy.escapes then .error .missingEscapeHandler else .ok () := by
  obtain ⟨name, value, policy⟩ := a
  cases policy <;> rfl

theorem Attribute.emission_of_not_escapes {a : Attribute} (h : a.policy.escapes = false)
    (handler : Option EscapeHandler) : a.emission handler = a.emission none := by
  obtain ⟨name, value, policy⟩ := a
  cases policy with
  | noEscape => rfl
  | escapeChars => cases h

/-- Without a handler a list of attributes fails exactly if one of its values is to be escaped, wherever in the
list. -/
theorem Attributes.result_emission_none (list : Attributes) (start : String) :
    ((list.emission none).run start).2 =
      if list.any fun a => a.policy.escapes then .error .missingEscapeHandler else .ok () := by
  induction list generalizing start with
  | nil => rfl
  | cons a rest ih =>
    have hcons : Attributes.emission none (a :: rest) = (a.emission none).andThen (Attributes.emission none rest) := rfl
    rw [hcons, Emission.result_andThen, a.result_emission_none, ih, List.any_cons]
    cases a.policy.escapes <;> rfl

theorem Attributes.emission_of_not_escapes {list : Attributes} (h : list.any (fun a => a.policy.escapes) = false)
    (handler : Option EscapeHandler) : list.emission handler = list.emission none := by
  induction list with
  | nil => rfl
  | cons a rest ih =>
    rw [List.any_cons, Bool.or_eq_false_iff] at h
    have hcons : ∀ handler, Attributes.emission handler (a :: rest) =
      (a.emission handler).andThen (Attributes.emission handler rest) := fun _ => rfl
    rw [hcons, hcons, Attribute.emission_of_not_escapes h.1, ih h.2]

namespace Carrier

variable (start : String)

/-- **Lists of attributes** ask for a handler when they need one. -/
theorem asksWhenNeeded_attributes (list : Attributes) : (Carrier.attributes list).AsksWhenNeeded start := by
  cases h : list.any fun a => a.policy.escapes with
  | true =>
    have hresult := list.result_emission_none start
    rw [if_pos h] at hresult
    exact .inl hresult
  | false => exact .inr fun handler => congrArg (·.run start) (Attributes.emission_of_not_escapes h handler)

theorem asksWhenNeeded_verbatim (text : String) : (Carrier.verbatim text).AsksWhenNeeded start :=
  .inr fun _ => rfl

/-- What passes through the handler is what fails for want of one. -/
theorem escapes_iff (carrier : Carrier) :
    carrier.escapes start = true ↔ ((carrier.emission none).run start).2 = .error .missingEscapeHandler := by
  cases carrier with
  | verbatim text => exact ⟨nofun, nofun⟩
  | attributes list =>
    have hescapes : (Carrier.attributes list).escapes start = list.any fun a => a.policy.escapes := rfl
    have hresult : (((Carrier.attributes list).emission none).run start).2 = _ := list.result_emission_none start
    rw [hescapes, hresult]
    split
    · rename_i h
      exact ⟨fun _ => rfl, fun _ => h⟩
    · rename_i h
      exact ⟨fun hany => absurd hany h, nofun⟩
  | custom emission => exact lacksHandler_iff

end Carrier

/-! ### Operations -/

namespace Operation

variable {operation : Operation}

/-- What writes the attributes of a tag asks for a handler when it needs one, whatever it is. -/
theorem AsksWhenNeeded.carrier (h : operation.AsksWhenNeeded) {name : String} {carrier : Carrier}
    (htag : operation = .openTag name (some carrier) ∨ operation = .voidTag name (some carrier)) :
    carrier.AsksWhenNeeded ("<" ++ name) := by
  cases carrier with
  | verbatim text => exact Carrier.asksWhenNeeded_verbatim _ text
  | attributes list => exact Carrier.asksWhenNeeded_attributes _ list
  | custom emission =>
    rcases htag with rfl | rfl
    · exact h
    · exact h

/-- A tag whose attributes escape is stopped before it begins. -/
theorem startEmission_of_escapes {name : String} {carrier : Carrier}
    (h : (name ≠ "" && carrier.escapes ("<" ++ name)) = true) :
    startEmission none name (some carrier) = .done (.error .missingEscapeHandler) := by
  rw [Bool.and_eq_true, decide_eq_true_iff] at h
  have hresult := (carrier.escapes_iff ("<" ++ name)).mp h.2
  unfold startEmission Canvas.stage
  rw [if_neg h.1]
  dsimp only
  generalize (carrier.emission none).run ("<" ++ name) = after at hresult
  obtain ⟨markup, r⟩ := after
  obtain rfl : r = .error .missingEscapeHandler := hresult
  rfl

/-- A tag whose attributes do not escape begins in the same way under every handler. -/
theorem startEmission_of_not_escapes {name : String} {carrier : Carrier}
    (hcarrier : carrier.AsksWhenNeeded ("<" ++ name))
    (h : ¬ (name ≠ "" && carrier.escapes ("<" ++ name)) = true) (handler : Option EscapeHandler) :
    startEmission handler name (some carrier) = startEmission none name (some carrier) := by
  unfold startEmission
  by_cases hname : name = ""
  · rw [if_pos hname, if_pos hname]
  · have hplain : ¬ ((carrier.emission none).run ("<" ++ name)).2 = .error .missingEscapeHandler := by
      rw [← carrier.escapes_iff]
      simpa [hname] using h
    have hsame := hcarrier.resolve_left hplain handler
    unfold Canvas.stage
    dsimp only
    rw [hsame]

/-- **Without a handler** what escapes is refused for want of one. -/
theorem refusedWith_of_escapes (h : operation.escapes = true) (openTags : List String) :
    operation.RefusedWith none openTags .missingEscapeHandler := by
  unfold RefusedWith
  cases operation with
  | openTag name attributes =>
    cases attributes with
    | none => cases h
    | some carrier => exact congrArg (Emission.andThen · (.putChar CanvasError.io '>')) (startEmission_of_escapes h)
  | voidTag name attributes =>
    cases attributes with
    | none => cases h
    | some carrier => exact congrArg (Emission.andThen · (.put CanvasError.io "/>")) (startEmission_of_escapes h)
  | text t policy =>
    cases t with
    | none => cases h
    | some t =>
      cases policy with
      | noEscape => cases h
      | escapeChars => rfl
  | closeTag | closeExpecting | char | rawBlock => cases h

/-- **What does not escape** emits the same under every handler. -/
theorem emission_of_not_escapes (hasks : operation.AsksWhenNeeded) (h : ¬ operation.escapes = true)
    (handler : Option EscapeHandler) (openTags : List String) :
    operation.emission handler openTags = operation.emission none openTags := by
  cases operation with
  | openTag name attributes =>
    cases attributes with
    | none => rfl
    | some carrier =>
      have hstart := startEmission_of_not_escapes (hasks.carrier (.inl rfl)) h handler
      exact congrArg (Emission.andThen · (.putChar CanvasError.io '>')) hstart
  | voidTag name attributes =>
    cases attributes with
    | none => rfl
    | some carrier =>
      have hstart := startEmission_of_not_escapes (hasks.carrier (.inr rfl)) h handler
      exact congrArg (Emission.andThen · (.put CanvasError.io "/>")) hstart
  | text t policy =>
    cases t with
    | none => rfl
    | some t =>
      cases policy with
      | noEscape => rfl
      | escapeChars => exact absurd rfl h
  | closeTag | closeExpecting | char | rawBlock => rfl

end Operation

/-! ### Canvases -/

namespace Canvas

variable {σ : Type}

/-- The canvas with another escape handler, or without one. -/
def handledBy (c : Canvas σ) (handler : Option EscapeHandler) : Canvas σ :=
  { c with config := { c.config with handler } }

/-- The canvases differ at most in their handlers and their records of warnings. -/
def SameButHandler (c d : Canvas σ) : Prop :=
  ∃ handler warnings, d = { c.handledBy handler with warnings }

namespace SameButHandler

variable [Sink σ] {c d : Canvas σ} {operation : Operation}

/-- **An operation that does not escape** has the same result on both and changes both in the same way. -/
theorem perform (h : SameButHandler c d) (hbare : c.config.handler = none) (hasks : operation.AsksWhenNeeded)
    (hplain : ¬ operation.escapes = true) :
    (d.perform operation).2 = (c.perform operation).2 ∧
      SameButHandler (c.perform operation).1 (d.perform operation).1 := by
  obtain ⟨handler, warnings, rfl⟩ := h
  have hemission := operation.emission_of_not_escapes hasks hplain handler c.openTags
  rw [perform_eq, perform_eq, hbare]
  unfold emit handledBy
  dsimp only
  rw [hemission]
  exact ⟨rfl, handler, _, rfl⟩

/-- **An operation that escapes** is refused by the canvas without a handler, as if it had not been attempted. -/
theorem attempt (h : SameButHandler c d) (hbare : c.config.handler = none) (hescapes : operation.escapes = true) :
    (c.perform operation).2 = .error .missingEscapeHandler ∧ SameButHandler (c.perform operation).1 d := by
  have hrefused : operation.RefusedWith c.config.handler c.openTags .missingEscapeHandler := by
    rw [hbare]
    exact operation.refusedWith_of_escapes hescapes c.openTags
  obtain ⟨handler, warnings, rfl⟩ := h
  rw [perform_of_refusedWith hrefused]
  exact ⟨rfl, handler, warnings, rfl⟩

/-- **Operations in a row**, on the second canvas without those that escape: these fail on the first one, and the
others have the same results on both. -/
theorem each (h : SameButHandler c d) (hbare : c.config.handler = none) (operations : List Operation)
    (hasks : ∀ operation ∈ operations, operation.AsksWhenNeeded) :
    let others := operations.filter fun operation => !operation.escapes
    let results := operations.zip (c.resultsOfEach operations)
    (∀ result ∈ results, result.1.escapes = true → result.2 = .error .missingEscapeHandler) ∧
      (results.filter fun result => !result.1.escapes) = others.zip (d.resultsOfEach others) ∧
      SameButHandler (c.afterEach operations) (d.afterEach others) := by
  induction operations generalizing c d with
  | nil => exact ⟨fun _ hresult => absurd hresult List.not_mem_nil, rfl, h⟩
  | cons operation operations ih =>
    have hfirst := hasks operation List.mem_cons_self
    have hrest : ∀ later ∈ operations, later.AsksWhenNeeded :=
      fun later hlater => hasks later (List.mem_cons_of_mem _ hlater)
    have hkept : (c.perform operation).1.config.handler = none := by
      rw [(perform_keeps operation c).config, hbare]
    have hzip : (operation :: operations).zip (c.resultsOfEach (operation :: operations)) =
      (operation, (c.perform operation).2) :: operations.zip ((c.perform operation).1.resultsOfEach operations) := rfl
    intro others results
    by_cases hescapes : operation.escapes = true
    · obtain ⟨hmissing, hone⟩ := h.attempt hbare hescapes
      obtain ⟨hfails, hsame, hafter⟩ := ih hone hkept hrest
      have hothers : others = operations.filter fun operation => !operation.escapes :=
        List.filter_cons_of_neg (by simp [hescapes])
      have hresults : (results.filter fun result => !result.1.escapes) =
          (operations.zip ((c.perform operation).1.resultsOfEach operations)).filter
            fun result => !result.1.escapes :=
        List.filter_cons_of_neg (by simp [hescapes])
      rw [hothers, hresults]
      refine ⟨fun result hresult hresultEscapes => ?_, hsame, hafter⟩
      rcases List.mem_cons.mp hresult with rfl | hlater
      · exact hmissing
      · exact hfails result hlater hresultEscapes
    · obtain ⟨hresult, hone⟩ := h.perform hbare hfirst hescapes
      obtain ⟨hfails, hsame, hafter⟩ := ih hone hkept hrest
      have hothers : others = operation :: operations.filter fun operation => !operation.escapes :=
        List.filter_cons_of_pos (by simp [hescapes])
      have hresults : (results.filter fun result => !result.1.escapes) =
          (operation, (c.perform operation).2) ::
            (operations.zip ((c.perform operation).1.resultsOfEach operations)).filter
              fun result => !result.1.escapes :=
        List.filter_cons_of_pos (by simp [hescapes])
      rw [hothers, hresults, hsame, ← hresult]
      refine ⟨fun result hmem hresultEscapes => ?_, rfl, hafter⟩
      rcases List.mem_cons.mp hmem with rfl | hlater
      · exact absurd hresultEscapes hescapes
      · exact hfails result hlater hresultEscapes

end SameButHandler

end Canvas

/-- **Without an escape handler the writes that escape vanish.** Let operations be performed in a row, whatever
comes of them, on a canvas without a handler over any sink. Those that escape fail for want of a handler: texts to
be escaped, the empty one included, and tags with a name and an attribute to be escaped, wherever it stands in
their list. All others have the results that they have on the canvas under any handler, when those that escape
are struck out; the sink takes the same, the same elements are left open, and the bindings and identifiers are the
same. So operations none of which escapes do the same under every handler and under none. Whatever else writes
attributes is supposed to ask for a handler when it needs one. -/
theorem escaping_writes_vanish {σ : Type} [Sink σ] (c : Canvas σ) (operations : List Operation)
    (hasks : ∀ operation ∈ operations, operation.AsksWhenNeeded) (handler : Option EscapeHandler) :
    let bare := c.handledBy none
    let handled := c.handledBy handler
    let others := operations.filter fun operation => !operation.escapes
    let results := operations.zip (bare.resultsOfEach operations)
    (∀ result ∈ results, result.1.escapes = true → result.2 = .error .missingEscapeHandler) ∧
      (results.filter fun result => !result.1.escapes) = others.zip (handled.resultsOfEach others) ∧
      (bare.afterEach operations).SameButHandler (handled.afterEach others) ∧
      ((∀ operation ∈ operations, operation.escapes = false) →
        results = operations.zip (handled.resultsOfEach operations) ∧
          (bare.afterEach operations).SameButHandler (handled.afterEach operations)) := by
  intro bare handled others results
  have hstart : bare.SameButHandler handled := ⟨handler, c.warnings, rfl⟩
  obtain ⟨hfails, hsame, hafter⟩ := hstart.each rfl operations hasks
  refine ⟨hfails, hsame, hafter, fun hplain => ?_⟩
  have hothers : others = operations :=
    List.filter_eq_self.mpr fun operation hoperation => by rw [hplain operation hoperation]; rfl
  have hresults : (results.filter fun result => !result.1.escapes) = results :=
    List.filter_eq_self.mpr fun result hresult => by
      rw [hplain result.1 (List.of_mem_zip hresult).1]
      rfl
  have hsame' : (results.filter fun result => !result.1.escapes) = others.zip (handled.resultsOfEach others) := hsame
  have hafter' : (bare.afterEach operations).SameButHandler (handled.afterEach others) := hafter
  rw [hresults, hothers] at hsame'
  rw [hothers] at hafter'
  exact ⟨hsame', hafter'⟩

/-- A paragraph with an empty text to be escaped and a link whose second attribute is to be escaped, and a text as
it is. Without a handler only the paragraph and the last text are written, as under a handler that refuses every
text. -/
theorem escaping_writes_vanish_link :
    let c : Canvas Pieces := { sink := {}, config := { warnsOfObsolete := false } }
    let link : Carrier := .attributes [⟨"data-x", "1", .noEscape⟩, ⟨"href", "/", .escapeChars⟩]
    let plain : List Operation := [.openTag "p" none, .text (some "a < b") .noEscape]
    let operations : List Operation :=
      [.openTag "p" none, .text (some "") .escapeChars, .openTag "a" (some link), .text (some "a < b") .noEscape]
    let bare := c.handledBy none
    let handled := c.handledBy (some EscapeHandler.refusing)
    ((∀ operation ∈ operations, operation.AsksWhenNeeded) ∧ (∀ operation ∈ plain, operation.escapes = false)) ∧
      ((bare.afterEach (operations.take 2)).perform (.openTag "a" (some link))).2 = .error .missingEscapeHandler ∧
      (bare.afterEach operations).SameButHandler (handled.afterEach plain) ∧
      (bare.afterEach plain).SameButHandler (handled.afterEach plain) ∧
      (handled.afterEach plain).sink.pieces = ["<p", ">", "a < b"] := by
  intro c link plain operations bare handled
  have hasks : ∀ operation ∈ operations, operation.AsksWhenNeeded := by
    simp [operations, link, Operation.AsksWhenNeeded]
  have hplainAsks : ∀ operation ∈ plain, operation.AsksWhenNeeded := by
    simp [plain, Operation.AsksWhenNeeded]
  have hplain : ∀ operation ∈ plain, operation.escapes = false := by
    simp [plain, Operation.escapes, EscapePolicy.escapes]
  obtain ⟨hfails, -, hafter, -⟩ := escaping_writes_vanish c operations hasks (some EscapeHandler.refusing)
  obtain ⟨-, -, -, hsame⟩ := escaping_writes_vanish c plain hplainAsks (some EscapeHandler.refusing)
  have hothers : (operations.filter fun operation => !operation.escapes) = plain := rfl
  rw [hothers] at hafter
  refine ⟨⟨hasks, hplain⟩, ?_, hafter, (hsame hplain).2, by decide +kernel⟩
  have hmem : (Operation.openTag "a" (some link),
      ((bare.afterEach (operations.take 2)).perform (.openTag "a" (some link))).2) ∈
        operations.zip (bare.resultsOfEach operations) :=
    List.mem_cons_of_mem _ (List.mem_cons_of_mem _ List.mem_cons_self)
  have hescapes : (Operation.openTag "a" (some link)).escapes = true := rfl
  exact hfails _ hmem hescapes

end Hypertext
