import Hypertext.Proofs.Canvas.Operations

/-!
# Operations that fail

An operation fails before anything has been emitted, or because the sink or the escape handler has failed.

* `Emission.FailsOnly`: all causes of failure of an emission are of some kind.
* `Operation.RefusedWith`: the operation is refused, so the sink is asked for nothing. Whatever is not refused
  fails with input or output only (`refusedWith_or_io`).
* `perform_of_refusedWith`: a refused operation changes nothing but the record of warnings.
* `openTags_of_error`: a failed operation leaves the open elements alone, unless the sink has refused the end
  tag of one: that element is not open any more (`Operation.loses`).
-/

namespace Hypertext

namespace Emission

variable {ε ε' : Type}

/-- However the sink answers, the emission fails with such a cause if it fails. -/
def FailsOnly (P : ε → Prop) : Emission ε → Prop
  | .done r => ∀ e, r = .error e → P e
  | .append _ next => ∀ r, (next r).FailsOnly P
  | .appendChar _ next => ∀ r, (next r).FailsOnly P
  | .flush next => ∀ r, (next r).FailsOnly P
  | .written next => ∀ text, (next text).FailsOnly P

variable {P : ε → Prop}

theorem FailsOnly.run {σ : Type} [Sink σ] {e : Emission ε} (h : e.FailsOnly P) {s : σ} {cause : ε}
    (hrun : (e.run s).2 = .error cause) : P cause := by
  induction e generalizing s with
  | done r => exact h cause hrun
  | append text next ih => exact ih _ (h _) hrun
  | appendChar c next ih => exact ih _ (h _) hrun
  | flush next ih => exact ih _ (h _) hrun
  | written next ih => exact ih _ (h _) hrun

theorem FailsOnly.andThen {e e' : Emission ε} (h : e.FailsOnly P) (h' : e'.FailsOnly P) :
    (e.andThen e').FailsOnly P := by
  induction e with
  | done r =>
    cases r with
    | ok u => exact h'
    | error cause => exact h
  | append text next ih => exact fun r => ih r (h r)
  | appendChar c next ih => exact fun r => ih r (h r)
  | flush next ih => exact fun r => ih r (h r)
  | written next ih => exact fun text => ih text (h text)

/-- With its causes of failure renamed an emission fails with a renamed cause. -/
theorem failsOnly_mapError (f : ε' → ε) (e : Emission ε') : (e.mapError f).FailsOnly fun e => ∃ e', e = f e' := by
  induction e with
  | done r =>
    intro cause hcause
    cases r with
    | ok u => cases hcause
    | error e' => exact ⟨e', (Except.error.inj hcause).symm⟩
  | append text next ih => exact ih
  | appendChar c next ih => exact ih
  | flush next ih => exact ih
  | written next ih => exact ih

theorem failsOnly_put (wrap : IoError → ε) (text : String) :
    (put wrap text).FailsOnly fun e => ∃ cause, e = wrap cause := by
  intro r e hr
  cases r with
  | ok u => cases hr
  | error cause => exact ⟨cause, (Except.error.inj hr).symm⟩

theorem failsOnly_putChar (wrap : IoError → ε) (c : Char) :
    (putChar wrap c).FailsOnly fun e => ∃ cause, e = wrap cause := by
  intro r e hr
  cases r with
  | ok u => cases hr
  | error cause => exact ⟨cause, (Except.error.inj hr).symm⟩

end Emission

namespace Operation

variable {handler : Option EscapeHandler} {openTags : List String} {operation : Operation} {e : CanvasError}

/-- The operation fails where these elements are open, and the sink is asked for nothing. -/
def RefusedWith (handler : Option EscapeHandler) (openTags : List String) (operation : Operation)
    (e : CanvasError) : Prop :=
  operation.emission handler openTags = .done (.error e)

/-- The failure is one of input or output. -/
def OfIo (e : CanvasError) : Prop :=
  ∃ cause, e = .io cause

theorem startEmission_refused_or_io (handler : Option EscapeHandler) (name : String)
    (attributes : Option Carrier) :
    (∃ e, startEmission handler name attributes = .done (.error e)) ∨
      (startEmission handler name attributes).FailsOnly OfIo := by
  unfold startEmission
  split
  · exact .inl ⟨_, rfl⟩
  · split
    · exact .inr (Emission.failsOnly_put _ _)
    · exact .inl ⟨_, rfl⟩

/-- The beginning of a tag followed by its end. -/
theorem andThen_refused_or_io {first second : Emission CanvasError}
    (h : (∃ e, first = .done (.error e)) ∨ first.FailsOnly OfIo) (h' : second.FailsOnly OfIo) :
    (∃ e, first.andThen second = .done (.error e)) ∨ (first.andThen second).FailsOnly OfIo := by
  rcases h with ⟨e, rfl⟩ | h
  · exact .inl ⟨e, rfl⟩
  · exact .inr (h.andThen h')

/-- **What is not refused** fails with input or output only. -/
theorem refusedWith_or_io (handler : Option EscapeHandler) (openTags : List String) (operation : Operation) :
    (∃ e, operation.RefusedWith handler openTags e) ∨
      (operation.emission handler openTags).FailsOnly OfIo := by
  cases operation with
  | openTag name attributes =>
    exact andThen_refused_or_io (startEmission_refused_or_io _ _ _) (Emission.failsOnly_putChar _ _)
  | voidTag name attributes =>
    exact andThen_refused_or_io (startEmission_refused_or_io _ _ _) (Emission.failsOnly_put _ _)
  | closeTag =>
    cases openTags with
    | nil => exact .inl ⟨_, rfl⟩
    | cons endTag openTags => exact .inr (Emission.failsOnly_put _ _)
  | closeExpecting expected =>
    cases openTags with
    | nil => exact .inl ⟨_, rfl⟩
    | cons found openTags =>
      unfold RefusedWith emission
      dsimp only
      split
      · exact .inr (Emission.failsOnly_put _ _)
      · exact .inl ⟨_, rfl⟩
  | text t policy =>
    cases t with
    | none => exact .inr nofun
    | some t =>
      cases policy with
      | noEscape => exact .inr (Emission.failsOnly_put _ _)
      | escapeChars =>
        cases handler with
        | none => exact .inl ⟨_, rfl⟩
        -- a failure of the handler counts as one of the sink
        | some handler => exact .inr (Emission.failsOnly_mapError _ _)
  | char c => exact .inr (Emission.failsOnly_putChar _ _)
  | rawBlock opening content closing =>
    exact .inr ((Emission.failsOnly_put _ _).andThen (Emission.failsOnly_put _ _))

/-- What is refused leaves the open elements alone. -/
theorem leaves_of_refusedWith (h : operation.RefusedWith handler openTags e) :
    operation.leaves openTags (.error e) = openTags := by
  -- closing alone changes the stack when it fails, and then it has emitted an end tag
  cases operation with
  | closeTag =>
    cases openTags with
    | nil => rfl
    | cons endTag openTags => cases h
  | closeExpecting expected =>
    cases openTags with
    | nil => rfl
    | cons found openTags =>
      refine if_neg fun hhead => ?_
      unfold RefusedWith emission at h
      dsimp only at h
      rw [if_pos (Option.some.inj hhead)] at h
      cases h
  | openTag | voidTag | text | char | rawBlock => rfl

/-- An end tag is taken from the stack although the sink has refused it. -/
def loses : Operation → Except CanvasError Unit → Bool
  | .closeTag, .error (.io _) => true
  | .closeExpecting _, .error (.io _) => true
  | _, _ => false

end Operation

namespace Canvas

variable {σ : Type} [Sink σ] {c : Canvas σ} {operation : Operation} {e : CanvasError}

/-- **A refused operation** changes nothing but the record of warnings. -/
theorem perform_of_refusedWith (h : operation.RefusedWith c.config.handler c.openTags e) :
    c.perform operation = ({ c with warnings := c.warnedBy operation }, .error e) := by
  rw [perform_eq]
  unfold emit
  rw [h]
  dsimp only [Emission.run]
  rw [Operation.leaves_of_refusedWith h]

theorem closeExpecting_cons {endTag : String} {endTags : List String} (h : c.openTags = endTag :: endTags)
    (expected : String) :
    c.perform (.closeExpecting expected) =
      if endTag = expected then c.perform .closeTag else (c, .error (.unexpectedTag expected endTag)) := by
  obtain ⟨sink, openTags, context, lastId, config, warnings⟩ := c
  obtain rfl : openTags = endTag :: endTags := h
  rfl

/-- Where something is open, closing takes its end tag from the stack and fails with the sink only. -/
theorem perform_closeTag_cons {endTag : String} {endTags : List String} (h : c.openTags = endTag :: endTags) :
    (c.perform .closeTag).1.openTags = endTags ∧
      ∀ e, (c.perform .closeTag).2 = .error e → Operation.OfIo e := by
  obtain ⟨sink, openTags, context, lastId, config, warnings⟩ := c
  obtain rfl : openTags = endTag :: endTags := h
  refine ⟨rfl, fun e he => ?_⟩
  rw [perform_result] at he
  exact Emission.FailsOnly.run (Emission.failsOnly_put _ _) he

/-- Closing that succeeds takes the innermost end tag from the stack. -/
theorem closeTag_ok (h : (c.perform .closeTag).2 = .ok ()) :
    ∃ endTag, c.openTags = endTag :: (c.perform .closeTag).1.openTags := by
  cases htags : c.openTags with
  | nil =>
    have hunder : Operation.closeTag.Underflows c.openTags := htags
    rw [perform_of_underflows hunder] at h
    cases h
  | cons endTag endTags => exact ⟨endTag, by rw [(perform_closeTag_cons htags).1]⟩

/-- An element that is closed as expected is closed like any other. -/
theorem closeExpecting_ok {expected : String} (h : (c.perform (.closeExpecting expected)).2 = .ok ()) :
    c.perform (.closeExpecting expected) = c.perform .closeTag := by
  rcases closeExpecting_cases expected c with hclose | ⟨e, hfail⟩
  · exact hclose
  · have hresult : (c.perform (.closeExpecting expected)).2 = .error e := congrArg Prod.snd hfail
    rw [hresult] at h
    cases h

/-- **A failed operation** leaves the open elements alone, unless the sink has refused the end tag of the
innermost one. -/
theorem openTags_of_error (h : (c.perform operation).2 = .error e) :
    if operation.loses (.error e) then ∃ endTag, c.openTags = endTag :: (c.perform operation).1.openTags
    else (c.perform operation).1.openTags = c.openTags := by
  by_cases hunder : operation.Underflows c.openTags
  · rw [perform_of_underflows hunder] at h ⊢
    obtain rfl := Except.error.inj h
    cases operation <;> rfl
  cases operation with
  | closeTag =>
    obtain ⟨endTag, endTags, htags⟩ := List.exists_cons_of_ne_nil hunder
    obtain ⟨hopen, hio⟩ := perform_closeTag_cons htags
    obtain ⟨cause, rfl⟩ := hio e h
    exact ⟨endTag, by rw [hopen, htags]⟩
  | closeExpecting expected =>
    obtain ⟨endTag, endTags, htags⟩ := List.exists_cons_of_ne_nil hunder
    rw [closeExpecting_cons htags] at h ⊢
    by_cases hexpected : endTag = expected
    · rw [if_pos hexpected] at h ⊢
      obtain ⟨hopen, hio⟩ := perform_closeTag_cons htags
      obtain ⟨cause, rfl⟩ := hio e h
      exact ⟨endTag, by rw [hopen, htags]⟩
    · rw [if_neg hexpected] at h ⊢
      obtain rfl := Except.error.inj h
      rfl
  | openTag | voidTag | text | char | rawBlock =>
    rw [perform_openTags, h]
    rfl

end Canvas

end Hypertext
