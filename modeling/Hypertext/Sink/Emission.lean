import Hypertext.Sink.Basic

/-!
# Emissions

An `Emission` is something that writes itself onto a sink, whatever sink it is: a tree that makes one
request of the sink at a time, sees what comes of it, and ends in success or failure.

* `run` performs an emission on a sink.
* `put` is the emission of one text that ends with the sink's failure, if there is one.
* `ofPieces` emits texts one by one until the sink fails.
* `run_andThen`, `run_mapError`: a composed emission is performed as its parts are.
* `Appends`: an emission that only gives text to the sink, as emissions composed of such ones do.
-/

namespace Hypertext

/-- A dialogue with a sink that ends in success or in a failure of type `ε`. -/
inductive Emission (ε : Type) where
  | done (result : Except ε Unit)
  | append (text : String) (next : Except IoError Unit → Emission ε)
  | appendChar (c : Char) (next : Except IoError Unit → Emission ε)
  | flush (next : Except IoError Unit → Emission ε)
  /-- Asks for everything written so far, if the sink keeps it. -/
  | written (next : Option String → Emission ε)

namespace Emission

variable {ε ε' : Type}

/-- Performs the emission on a sink. -/
def run {σ : Type} [Sink σ] : Emission ε → Attempt ε σ
  | .done r, s => (s, r)
  | .append text next, s =>
    match Sink.append text s with
    | (s, r) => run (next r) s
  | .appendChar c next, s =>
    match Sink.appendChar c s with
    | (s, r) => run (next r) s
  | .flush next, s =>
    match Sink.flush s with
    | (s, r) => run (next r) s
  | .written next, s => run (next (Sink.written s)) s

/-- The emission of nothing. -/
def nothing : Emission ε := .done (.ok ())

/-- The emission of a text, failing as the sink does. -/
def put (wrap : IoError → ε) (text : String) : Emission ε :=
  .append text fun r => .done (r.mapError wrap)

/-- The emission of a character, failing as the sink does. -/
def putChar (wrap : IoError → ε) (c : Char) : Emission ε :=
  .appendChar c fun r => .done (r.mapError wrap)

/-- The first emission, and the second one if the first succeeds. -/
def andThen (first second : Emission ε) : Emission ε :=
  match first with
  | .done (.ok ()) => second
  | .done (.error e) => .done (.error e)
  | .append text next => .append text fun r => andThen (next r) second
  | .appendChar c next => .appendChar c fun r => andThen (next r) second
  | .flush next => .flush fun r => andThen (next r) second
  | .written next => .written fun text => andThen (next text) second

/-- The same emission with its causes of failure renamed. -/
def mapError (f : ε → ε') : Emission ε → Emission ε'
  | .done r => .done (r.mapError f)
  | .append text next => .append text fun r => mapError f (next r)
  | .appendChar c next => .appendChar c fun r => mapError f (next r)
  | .flush next => .flush fun r => mapError f (next r)
  | .written next => .written fun text => mapError f (next text)

/-- The texts one by one until the sink fails. -/
def ofPieces (wrap : IoError → ε) : List String → Emission ε
  | [] => nothing
  | piece :: pieces => (put wrap piece).andThen (ofPieces wrap pieces)

/-- Emitting one after the other is performing one after the other. -/
theorem run_andThen {σ : Type} [Sink σ] (first second : Emission ε) :
    ((first.andThen second).run : Attempt ε σ) = Attempt.andThen first.run second.run := by
  funext s
  induction first generalizing s with
  | done r => cases r <;> rfl
  | append text next ih =>
    simp only [andThen, run, ih]
    rfl
  | appendChar c next ih =>
    simp only [andThen, run, ih]
    rfl
  | flush next ih =>
    simp only [andThen, run, ih]
    rfl
  | written next ih => exact ih (Sink.written s) s

theorem run_mapError {σ : Type} [Sink σ] (f : ε → ε') (e : Emission ε) :
    ((e.mapError f).run : Attempt ε' σ) = Attempt.mapError f e.run := by
  funext s
  induction e generalizing s with
  | done r => cases r <;> rfl
  | append text next ih =>
    simp only [mapError, run, ih]
    rfl
  | appendChar c next ih =>
    simp only [mapError, run, ih]
    rfl
  | flush next ih =>
    simp only [mapError, run, ih]
    rfl
  | written next ih => exact ih (Sink.written s) s

/-- The sink is asked for nothing but to take text. It is not flushed, and what it has taken is not looked at. -/
def Appends : Emission ε → Prop
  | .done _ => True
  | .append _ next => ∀ r, (next r).Appends
  | .appendChar _ next => ∀ r, (next r).Appends
  | .flush _ => False
  | .written _ => False

theorem appends_put (wrap : IoError → ε) (text : String) : (put wrap text).Appends := fun _ => trivial

theorem appends_putChar (wrap : IoError → ε) (c : Char) : (putChar wrap c).Appends := fun _ => trivial

theorem Appends.andThen {first second : Emission ε} (h : first.Appends) (h' : second.Appends) :
    (first.andThen second).Appends := by
  induction first with
  | done r =>
    cases r with
    | ok u => exact h'
    | error e => exact trivial
  | append text next ih => exact fun r => ih r (h r)
  | appendChar c next ih => exact fun r => ih r (h r)
  | flush next => exact h.elim
  | written next => exact h.elim

theorem Appends.mapError {e : Emission ε} (h : e.Appends) (f : ε → ε') : (e.mapError f).Appends := by
  induction e with
  | done r => exact trivial
  | append text next ih => exact fun r => ih r (h r)
  | appendChar c next ih => exact fun r => ih r (h r)
  | flush next => exact h.elim
  | written next => exact h.elim

theorem appends_ofPieces (wrap : IoError → ε) (pieces : List String) : (ofPieces wrap pieces).Appends := by
  induction pieces with
  | nil => exact trivial
  | cons piece pieces ih => exact (appends_put wrap piece).andThen ih

end Emission

end Hypertext
