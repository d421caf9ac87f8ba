import Hypertext.Proofs.Sink.Bounded

/-!
# What a sink is offered

An emission asks a sink for one append at a time, and what it asks for next may depend on the answers.

* `Emission.offered`: the texts that the sink is asked to take, in order.
* `Sink.Takes`: the sink takes these texts one after the other.
* `Emission.OffersInOrder`: the sink is offered the texts one by one; the first one that it refuses is the last
  one that it is offered, and its failure is that of the emission.
* `Emission.ofPieces_offersInOrder`: so it is for an emission piece by piece.
* `Sink.Stores`: a sink that stores a text exactly if it takes it.
-/

namespace Hypertext

namespace Sink

variable {σ : Type} [Sink σ]

/-- The sink takes the texts one after the other. -/
def Takes : List String → σ → Prop
  | [], _ => True
  | text :: texts, s => (append text s).2 = .ok () ∧ Takes texts (append text s).1

/-- What is stored grows by a text that the sink takes, and stays if the sink refuses it. -/
structure Stores (stored : σ → List String) : Prop where
  taken : ∀ text s, (append text s).2 = .ok () → stored (append text s).1 = stored s ++ [text]
  refused : ∀ text s cause, (append text s).2 = .error cause → stored (append text s).1 = stored s

/-- Texts are taken to the end, or there is a first one that is refused. -/
theorem takes_or_refuses (texts : List String) (s : σ) :
    Takes texts s ∨ ∃ before text after s' cause, texts = before ++ text :: after ∧ Takes before s ∧
      append text (afterTexts before s) = (s', .error cause) := by
  induction texts generalizing s with
  | nil => exact .inl trivial
  | cons text texts ih =>
    rcases hfirst : append text s with ⟨s', _ | _⟩
    · exact .inr ⟨[], text, texts, s', _, rfl, trivial, hfirst⟩
    · have hok : (append text s).2 = .ok () := by rw [hfirst]
      rcases ih (append text s).1 with htakes | ⟨before, refused, after, t, cause, rfl, htakes, hrefused⟩
      · exact .inl ⟨hok, htakes⟩
      · exact .inr ⟨text :: before, refused, after, t, cause, rfl, ⟨hok, htakes⟩, hrefused⟩

/-- The texts that are taken are stored. -/
theorem Stores.afterTexts {stored : σ → List String} (h : Stores stored) {texts : List String} {s : σ}
    (htakes : Takes texts s) : stored (Sink.afterTexts texts s) = stored s ++ texts := by
  induction texts generalizing s with
  | nil => exact (List.append_nil _).symm
  | cons text texts ih =>
    obtain ⟨hok, hrest⟩ := htakes
    have hcons : Sink.afterTexts (text :: texts) s = Sink.afterTexts texts (append text s).1 := rfl
    rw [hcons, ih hrest, h.taken text s hok, List.append_assoc, List.singleton_append]

end Sink

/-- A record of pieces stores a text exactly if it takes it. -/
theorem Pieces.stores : Sink.Stores Pieces.pieces where
  taken text s h := by
    obtain ⟨_ | _ | _, _⟩ := s
    · exact List.reverse_cons
    · cases h
    · exact List.reverse_cons
  refused text s cause h := by
    obtain ⟨_ | _ | _, _⟩ := s
    · cases h
    · rfl
    · cases h

namespace Emission

variable {ε : Type}

/-- The texts that the sink is asked to take, in order. A character counts as a text of one character. -/
def offered {σ : Type} [Sink σ] : Emission ε → σ → List String
  | .done _, _ => []
  | .append text next, s => text :: (next (Sink.append text s).2).offered (Sink.append text s).1
  | .appendChar c next, s =>
    String.singleton c :: (next (Sink.appendChar c s).2).offered (Sink.appendChar c s).1
  | .flush next, s => (next (Sink.flush s).2).offered (Sink.flush s).1
  | .written next, s => (next (Sink.written s)).offered s

/-- On every sink the texts are offered one by one, as far as they are taken. -/
structure OffersInOrder (wrap : IoError → ε) (texts : List String) (e : Emission ε) : Prop where
  /-- A sink that takes them all is offered them all, and the emission succeeds. -/
  taken : ∀ {σ : Type} [Sink σ] (s : σ), Sink.Takes texts s →
    e.offered s = texts ∧ e.run s = (Sink.afterTexts texts s, .ok ())
  /-- After a text that is refused nothing is offered any more, and the emission fails as the sink does. -/
  refused : ∀ {σ : Type} [Sink σ] (s : σ) before text after s' cause, texts = before ++ text :: after →
    Sink.Takes before s → Sink.append text (Sink.afterTexts before s) = (s', .error cause) →
      e.offered s = before ++ [text] ∧ e.run s = (s', .error (wrap cause))

section

variable {σ : Type} [Sink σ] (wrap : IoError → ε) {text : String} (texts : List String) {s s' : σ}

/-- The first piece is offered, and then, depending on the answer, the rest or nothing. -/
theorem ofPieces_cons (text : String) (texts : List String) (s : σ) :
    let rest := (done ((Sink.append text s).2.mapError wrap)).andThen (ofPieces wrap texts)
    (ofPieces wrap (text :: texts)).offered s = text :: rest.offered (Sink.append text s).1 ∧
      (ofPieces wrap (text :: texts)).run s = rest.run (Sink.append text s).1 :=
  ⟨rfl, rfl⟩

theorem ofPieces_cons_of_ok (h : (Sink.append text s).2 = .ok ()) :
    (ofPieces wrap (text :: texts)).offered s = text :: (ofPieces wrap texts).offered (Sink.append text s).1 ∧
      (ofPieces wrap (text :: texts)).run s = (ofPieces wrap texts).run (Sink.append text s).1 := by
  obtain ⟨hoffered, hrun⟩ := ofPieces_cons wrap text texts s
  rw [hoffered, hrun, h]
  exact ⟨rfl, rfl⟩

theorem ofPieces_cons_of_error {cause : IoError} (h : Sink.append text s = (s', .error cause)) :
    (ofPieces wrap (text :: texts)).offered s = [text] ∧
      (ofPieces wrap (text :: texts)).run s = (s', .error (wrap cause)) := by
  obtain ⟨hoffered, hrun⟩ := ofPieces_cons wrap text texts s
  rw [hoffered, hrun, h]
  exact ⟨rfl, rfl⟩

end

/-- **An emission piece by piece** offers the pieces in order, up to the first one that is refused. -/
theorem ofPieces_offersInOrder (wrap : IoError → ε) (texts : List String) :
    OffersInOrder wrap texts (ofPieces wrap texts) where
  taken s htakes := by
    induction texts generalizing s with
    | nil => exact ⟨rfl, rfl⟩
    | cons text texts ih =>
      obtain ⟨hoffered, hrun⟩ := ofPieces_cons_of_ok wrap texts htakes.1
      obtain ⟨hofferedRest, hrunRest⟩ := ih _ htakes.2
      rw [hoffered, hrun, hofferedRest, hrunRest]
      exact ⟨rfl, rfl⟩
  refused s before text after s' cause htexts htakes hrefused := by
    subst htexts
    induction before generalizing s with
    | nil => exact ofPieces_cons_of_error wrap after hrefused
    | cons first before ih =>
      obtain ⟨hoffered, hrun⟩ := ofPieces_cons_of_ok wrap (before ++ text :: after) htakes.1
      obtain ⟨hofferedRest, hrunRest⟩ := ih _ htakes.2 hrefused
      rw [List.cons_append, hoffered, hrun, hofferedRest, hrunRest]
      exact ⟨rfl, rfl⟩

/-- **A sink that stores what it takes** has stored all the texts if the emission has succeeded, and otherwise
those that were offered before the last one. -/
theorem OffersInOrder.stored {wrap : IoError → ε} {texts : List String} {e : Emission ε}
    (h : OffersInOrder wrap texts e) {σ : Type} [Sink σ] {stored : σ → List String} (hstores : Sink.Stores stored)
    (s : σ) :
    ((e.run s).2 = .ok () → stored (e.run s).1 = stored s ++ texts) ∧
      ∀ cause, (e.run s).2 = .error cause → stored (e.run s).1 = stored s ++ (e.offered s).dropLast := by
  rcases Sink.takes_or_refuses texts s with htakes | ⟨before, text, after, s', cause, htexts, htakes, hrefused⟩
  · obtain ⟨-, hrun⟩ := h.taken s htakes
    rw [hrun]
    exact ⟨fun _ => hstores.afterTexts htakes, fun _ herror => by cases herror⟩
  · obtain ⟨hoffered, hrun⟩ := h.refused s before text after s' cause htexts htakes hrefused
    have hkept := hstores.refused text (Sink.afterTexts before s) cause (by rw [hrefused])
    rw [hrefused] at hkept
    rw [hrun, hoffered, List.dropLast_concat]
    exact ⟨fun hok => (by cases hok), fun _ _ => hkept.trans (hstores.afterTexts htakes)⟩

end Emission

end Hypertext
