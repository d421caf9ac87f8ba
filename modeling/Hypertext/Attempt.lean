/-!
# Steps that may fail

An `Attempt` takes a state to the state it leaves and to success or a cause of failure. The state
counts in both cases: a failed step may have got half way.

* `andThen` goes on with a second step only after the first has succeeded.
* `all` performs a list of steps until one fails. `all_lift`: on a state inside another one as on the state itself.
-/

namespace Hypertext

/-- A step on states that may fail. -/
abbrev Attempt (ε σ : Type) := σ → σ × Except ε Unit

namespace Attempt

variable {ε ε' σ : Type}

/-- The step that changes nothing and succeeds. -/
def succeed : Attempt ε σ := fun s => (s, .ok ())

/-- The step that changes nothing and fails. -/
def fail (e : ε) : Attempt ε σ := fun s => (s, .error e)

/-- The first step, and the second one if the first succeeds. -/
def andThen (first second : Attempt ε σ) : Attempt ε σ := fun s =>
  match first s with
  | (s, .ok ()) => second s
  | (s, .error e) => (s, .error e)

/-- The steps in order until one fails. -/
def all : List (Attempt ε σ) → Attempt ε σ
  | [] => succeed
  | step :: steps => step.andThen (all steps)

/-- Steps that do to one kind of state what others do to another kind in it do so in a row. -/
theorem all_lift {ι τ : Type} (lift : σ → τ) {step : ι → Attempt ε σ} {step' : ι → Attempt ε τ}
    (h : ∀ i s, step' i (lift s) = (lift (step i s).1, (step i s).2)) (steps : List ι) (s : σ) :
    all (steps.map step') (lift s) = (lift (all (steps.map step) s).1, (all (steps.map step) s).2) := by
  induction steps generalizing s with
  | nil => rfl
  | cons i steps ih =>
    have hleft : all ((i :: steps).map step') (lift s) = (step' i).andThen (all (steps.map step')) (lift s) := rfl
    have hright : all ((i :: steps).map step) s = (step i).andThen (all (steps.map step)) s := rfl
    rw [hleft, hright, andThen, andThen, h]
    generalize step i s = after
    obtain ⟨next, r⟩ := after
    cases r with
    | ok u => exact ih next
    | error e => rfl

/-- The same step with its causes of failure renamed. -/
def mapError (f : ε → ε') (step : Attempt ε σ) : Attempt ε' σ := fun s =>
  match step s with
  | (s, r) => (s, r.mapError f)

end Attempt

end Hypertext
