import Hypertext.Proofs.Canvas.Operations

/-!
# Sinks with room for so much

Two sinks are given the same texts. One takes everything, the other one takes units of some kind, bytes or
pieces, up to a limit, and fails from then on.

* `Sink.Truncation`: what the two kinds of sink do with a text.
* `Truncation.Agree`: the second sink has taken exactly the first units of what the first one has taken.
* `Emission.Reports`: the emission fails as the sink does, so that it cannot go on as if nothing had happened.
* `Emission.run_agree`: after such an emission the sinks agree, and either it has come to the same result on
  both, or it has failed for want of room.
-/

namespace Hypertext

/-- What two kinds of sink do with a text: one takes all its units, the other one as many as fit. -/
structure Sink.Truncation (σ τ α : Type) [Sink σ] [Sink τ] where
  units : String → List α
  /-- What the first sink has taken. -/
  whole : σ → List α
  /-- What the second sink has taken. -/
  part : τ → List α
  limit : Nat
  /-- The failure for want of room. -/
  stop : IoError
  /-- The first sink is one that takes everything. -/
  Endless : σ → Prop
  /-- The second sink is one that takes units up to the limit. -/
  Bounded : τ → Prop
  char_whole : ∀ ch (s : σ), Sink.appendChar ch s = Sink.append (String.singleton ch) s
  char_part : ∀ ch (t : τ), Sink.appendChar ch t = Sink.append (String.singleton ch) t
  append_whole : ∀ text s, Endless s →
    Endless (Sink.append text s).1 ∧ whole (Sink.append text s).1 = whole s ++ units text ∧
      (Sink.append text s).2 = .ok ()
  append_part : ∀ text t, Bounded t →
    Bounded (Sink.append text t).1 ∧ part (Sink.append text t).1 = (part t ++ units text).take limit ∧
      (Sink.append text t).2 = if (part t ++ units text).length ≤ limit then .ok () else .error stop

theorem take_append_take {α : Type} (n : Nat) (xs ys : List α) :
    (xs.take n ++ ys).take n = (xs ++ ys).take n := by
  rw [List.take_append, List.take_append, List.take_take, Nat.min_self, List.length_take]
  by_cases h : xs.length ≤ n
  · rw [Nat.min_eq_right h]
  · have hfull : n - min n xs.length = 0 := by omega
    have hfull' : n - xs.length = 0 := by omega
    rw [hfull, hfull']

namespace Sink.Truncation

variable {σ τ α : Type} [Sink σ] [Sink τ] (T : Truncation σ τ α) {s : σ} {t : τ}

/-- The second sink has taken exactly the first units of what the first one has taken, up to the limit. -/
def Agree (s : σ) (t : τ) : Prop :=
  T.Endless s ∧ T.Bounded t ∧ T.part t = (T.whole s).take T.limit

/-- The first sink has taken more than the limit. -/
def Overflows (s : σ) : Prop :=
  T.limit < (T.whole s).length

variable {T}

/-- **One text on both sinks**: they agree afterwards, and the second one has failed only if there was too
much. -/
theorem Agree.append (h : T.Agree s t) (text : String) :
    T.Agree (Sink.append text s).1 (Sink.append text t).1 ∧ (Sink.append text s).2 = .ok () ∧
      ((Sink.append text t).2 = .ok () ∨
        (Sink.append text t).2 = .error T.stop ∧ T.Overflows (Sink.append text s).1) := by
  obtain ⟨hendless, hbounded, hagree⟩ := h
  obtain ⟨hendless', hwhole, hok⟩ := T.append_whole text s hendless
  obtain ⟨hbounded', hpart, hresult⟩ := T.append_part text t hbounded
  refine ⟨⟨hendless', hbounded', ?_⟩, hok, ?_⟩
  · rw [hpart, hwhole, hagree, take_append_take]
  · rw [hresult]
    split
    · exact .inl rfl
    · rename_i hmore
      refine .inr ⟨rfl, ?_⟩
      have hless : (T.part t).length ≤ (T.whole s).length := by
        rw [hagree]
        exact List.length_take_le' _ _
      unfold Overflows
      rw [hwhole, List.length_append]
      rw [List.length_append] at hmore
      omega

/-- A character is appended as a text, so only texts have to be considered. -/
theorem closed_of_append {ρ : Type} [Sink ρ] {P : ρ → Prop}
    (hchar : ∀ ch (r : ρ), Sink.appendChar ch r = Sink.append (String.singleton ch) r)
    (happend : ∀ text r, P r → P (Sink.append text r).1) : Sink.Closed False P where
  append := happend
  appendChar ch r h := by
    rw [hchar]
    exact happend _ r h
  flush hflush := hflush.elim

variable (T)

theorem closed_endless : Sink.Closed False T.Endless :=
  closed_of_append T.char_whole fun text s h => (T.append_whole text s h).1

/-- What has been too much stays too much. -/
theorem closed_overflows : Sink.Closed False fun s => T.Endless s ∧ T.Overflows s := by
  refine closed_of_append T.char_whole fun text s ⟨hendless, hover⟩ => ?_
  obtain ⟨hendless', hwhole, -⟩ := T.append_whole text s hendless
  refine ⟨hendless', ?_⟩
  unfold Overflows at *
  rw [hwhole, List.length_append]
  omega

/-- Once there was too much, more of it makes no difference. -/
theorem closed_left (t : τ) : Sink.Closed False fun s => T.Agree s t ∧ T.Overflows s := by
  refine closed_of_append T.char_whole fun text s ⟨⟨hendless, hbounded, hagree⟩, hover⟩ => ?_
  obtain ⟨hendless', hover'⟩ := T.closed_overflows.append text s ⟨hendless, hover⟩
  obtain ⟨-, hwhole, -⟩ := T.append_whole text s hendless
  refine ⟨⟨hendless', hbounded, ?_⟩, hover'⟩
  rw [hwhole, hagree, List.take_append_of_le_length (Nat.le_of_lt hover)]

/-- Once there was too much, the second sink takes nothing more. -/
theorem closed_right (s : σ) : Sink.Closed False fun t => T.Agree s t ∧ T.Overflows s := by
  refine closed_of_append T.char_part fun text t ⟨⟨hendless, hbounded, hagree⟩, hover⟩ => ?_
  obtain ⟨hbounded', hpart, -⟩ := T.append_part text t hbounded
  refine ⟨⟨hendless, hbounded', ?_⟩, hover⟩
  rw [hpart, hagree, take_append_take, List.take_append_of_le_length (Nat.le_of_lt hover)]

end Sink.Truncation

namespace Emission

variable {ε ε' : Type}

/-- However the sink answers from now on, the emission ends in this failure. -/
def FailsWith (e : ε) : Emission ε → Prop
  | .done r => r = .error e
  | .append _ next => ∀ r, (next r).FailsWith e
  | .appendChar _ next => ∀ r, (next r).FailsWith e
  | .flush next => ∀ r, (next r).FailsWith e
  | .written next => ∀ text, (next text).FailsWith e

/-- After a failure of the sink the emission ends in that failure. -/
def Reports (wrap : IoError → ε) : Emission ε → Prop
  | .done _ => True
  | .append _ next =>
    (∀ cause, (next (.error cause)).FailsWith (wrap cause)) ∧ (next (.ok ())).Reports wrap
  | .appendChar _ next =>
    (∀ cause, (next (.error cause)).FailsWith (wrap cause)) ∧ (next (.ok ())).Reports wrap
  | .flush next =>
    (∀ cause, (next (.error cause)).FailsWith (wrap cause)) ∧ (next (.ok ())).Reports wrap
  | .written next => ∀ text, (next text).Reports wrap

theorem FailsWith.run {σ : Type} [Sink σ] {cause : ε} {e : Emission ε} (h : e.FailsWith cause) (s : σ) :
    (e.run s).2 = .error cause := by
  induction e generalizing s with
  | done r => exact h
  | append text next ih => exact ih _ (h _) _
  | appendChar ch next ih => exact ih _ (h _) _
  | flush next ih => exact ih _ (h _) _
  | written next ih => exact ih _ (h _) _

theorem FailsWith.andThen {cause : ε} {e : Emission ε} (h : e.FailsWith cause) (e' : Emission ε) :
    (e.andThen e').FailsWith cause := by
  induction e with
  | done r =>
    obtain rfl : r = .error cause := h
    rfl
  | append text next ih => exact fun r => ih r (h r)
  | appendChar ch next ih => exact fun r => ih r (h r)
  | flush next ih => exact fun r => ih r (h r)
  | written next ih => exact fun text => ih text (h text)

theorem FailsWith.mapError {cause : ε} {e : Emission ε} (h : e.FailsWith cause) (f : ε → ε') :
    (e.mapError f).FailsWith (f cause) := by
  induction e with
  | done r =>
    obtain rfl : r = .error cause := h
    rfl
  | append text next ih => exact fun r => ih r (h r)
  | appendChar ch next ih => exact fun r => ih r (h r)
  | flush next ih => exact fun r => ih r (h r)
  | written next ih => exact fun text => ih text (h text)

section

variable {wrap : IoError → ε}

theorem reports_put (text : String) : (put wrap text).Reports wrap := ⟨fun _ => rfl, trivial⟩

theorem reports_putChar (ch : Char) : (putChar wrap ch).Reports wrap := ⟨fun _ => rfl, trivial⟩

theorem Reports.andThen {e e' : Emission ε} (h : e.Reports wrap) (h' : e'.Reports wrap) :
    (e.andThen e').Reports wrap := by
  induction e with
  | done r =>
    cases r with
    | ok u => exact h'
    | error cause => exact trivial
  | append text next ih => exact ⟨fun cause => (h.1 cause).andThen e', ih _ h.2⟩
  | appendChar ch next ih => exact ⟨fun cause => (h.1 cause).andThen e', ih _ h.2⟩
  | flush next ih => exact ⟨fun cause => (h.1 cause).andThen e', ih _ h.2⟩
  | written next ih => exact fun text => ih text (h text)

theorem Reports.mapError {e : Emission ε} (h : e.Reports wrap) (f : ε → ε') :
    (e.mapError f).Reports (f ∘ wrap) := by
  induction e with
  | done r => exact trivial
  | append text next ih => exact ⟨fun cause => (h.1 cause).mapError f, ih _ h.2⟩
  | appendChar ch next ih => exact ⟨fun cause => (h.1 cause).mapError f, ih _ h.2⟩
  | flush next ih => exact ⟨fun cause => (h.1 cause).mapError f, ih _ h.2⟩
  | written next ih => exact fun text => ih text (h text)

theorem reports_ofPieces (pieces : List String) : (ofPieces wrap pieces).Reports wrap := by
  induction pieces with
  | nil => exact trivial
  | cons piece pieces ih => exact (reports_put piece).andThen ih

end

section

variable {σ τ α : Type} [Sink σ] [Sink τ] {T : Sink.Truncation σ τ α} {wrap : IoError → ε}

theorem run_appendChar {ρ : Type} [Sink ρ] {ch : Char} {s : ρ}
    (h : Sink.appendChar ch s = Sink.append (String.singleton ch) s)
    (next : Except IoError Unit → Emission ε) :
    (appendChar ch next).run s = (append (String.singleton ch) next).run s := by
  rw [run, run, h]

/-- Once there was too much, what is appended makes no difference to what either sink has of the other. -/
theorem run_overflows {s : σ} {t : τ} (h : T.Agree s t) (hover : T.Overflows s) {e e' : Emission ε}
    (he : e.Appends) (he' : e'.Appends) : T.Agree (e.run s).1 (e'.run t).1 ∧ T.Overflows (e.run s).1 := by
  have hleft := he.run_preserves (T.closed_left t) ⟨h, hover⟩
  exact he'.run_preserves (T.closed_right (e.run s).1) hleft

/-- What comes of two runs of an emission, one on each sink. -/
def Agreed (T : Sink.Truncation σ τ α) (wrap : IoError → ε) (after : σ × Except ε Unit)
    (after' : τ × Except ε Unit) : Prop :=
  T.Agree after.1 after'.1 ∧
    (after'.2 = after.2 ∨ after'.2 = .error (wrap T.stop) ∧ T.Overflows after.1)

/-- One text of an emission, if what follows it does as it should. -/
theorem agreed_append {s : σ} {t : τ} (h : T.Agree s t) (text : String)
    {next : Except IoError Unit → Emission ε} (happends : ∀ r, (next r).Appends)
    (hfail : ∀ cause, (next (.error cause)).FailsWith (wrap cause))
    (hrest : ∀ s t, T.Agree s t → Agreed T wrap ((next (.ok ())).run s) ((next (.ok ())).run t)) :
    Agreed T wrap ((append text next).run s) ((append text next).run t) := by
  obtain ⟨hagree, hok, hpart⟩ := h.append text
  rw [run, run]
  generalize Sink.append text s = after, Sink.append text t = after' at *
  obtain ⟨s', r⟩ := after
  obtain ⟨t', r'⟩ := after'
  obtain rfl : r = .ok () := hok
  rcases hpart with hok' | ⟨hstop, hover⟩
  · obtain rfl : r' = .ok () := hok'
    exact hrest s' t' hagree
  -- from here on the emission fails on the second sink, and neither run changes what the two have in common
  · obtain rfl : r' = .error T.stop := hstop
    obtain ⟨hboth, hover'⟩ := run_overflows hagree hover (happends (.ok ())) (happends (.error T.stop))
    exact ⟨hboth, .inr ⟨(hfail T.stop).run t', hover'⟩⟩

/-- **One emission on both sinks**, if it only appends and fails as the sink does: the sinks agree afterwards,
and it has come to the same result, or there was too much and it has failed on the second sink for want of
room. -/
theorem run_agree {e : Emission ε} (happends : e.Appends) (he : e.Reports wrap) {s : σ} {t : τ}
    (h : T.Agree s t) : Agreed T wrap (e.run s) (e.run t) := by
  induction e generalizing s t with
  | done r => exact ⟨h, .inl rfl⟩
  | append text next ih =>
    exact agreed_append h text happends he.1 fun _ _ hagree => ih _ (happends _) he.2 hagree
  | appendChar ch next ih =>
    rw [run_appendChar (T.char_whole ch s), run_appendChar (T.char_part ch t)]
    exact agreed_append h _ happends he.1 fun _ _ hagree => ih _ (happends _) he.2 hagree
  -- a sink with a limit may refuse to be flushed, and it does not show the same as one without
  | flush next => exact happends.elim
  | written next => exact happends.elim

end

end Emission

end Hypertext
