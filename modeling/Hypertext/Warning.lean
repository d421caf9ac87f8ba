/-!
# Warnings

`Warnings` records what has been warned of, so that the same warning is printed once.

* A warning is told apart by its text `[component] message` alone.
* `warn` records and prints a text that is not recorded; `clear` forgets all of them.
* `has_warn`, `warn_of_has`: what has been warned of is recorded, and warning of it again changes nothing.
-/

namespace Hypertext

/-- The recorded warnings and everything printed for them. -/
structure Warnings where
  /-- The texts recorded since the last clear, each once, oldest first. -/
  recorded : List String := []
  /-- The lines printed so far, oldest first. -/
  printed : List String := []
deriving DecidableEq, Repr, Inhabited

namespace Warnings

/-- The text that tells a warning from others. -/
def text (component message : String) : String :=
  "[" ++ component ++ "] " ++ message

/-- The line printed for a warning, in yellow. -/
def line (component message : String) : String :=
  "\x1b[33m[Scribe " ++ component ++ "] ⚠ " ++ message ++ "\x1b[39m\n"

/-- Whether the warning is recorded. -/
def has (w : Warnings) (component message : String) : Bool :=
  w.recorded.contains (text component message)

/-- Records and prints the warning unless it is recorded already. -/
def warn (w : Warnings) (component message : String) : Warnings :=
  if w.has component message then w
  else
    { recorded := w.recorded ++ [text component message]
      printed := w.printed ++ [line component message] }

/-- The number of recorded warnings. -/
def count (w : Warnings) : Nat :=
  w.recorded.length

/-- Forgets the recorded warnings; what has been printed stays printed. -/
def clear (w : Warnings) : Warnings :=
  { w with recorded := [] }

/-- What is recorded is not warned of again. -/
theorem warn_of_has {w : Warnings} {component message : String} (h : w.has component message = true) :
    w.warn component message = w := by
  unfold warn
  rw [if_pos h]

theorem has_warn (w : Warnings) (component message : String) :
    (w.warn component message).has component message = true := by
  unfold warn
  split
  · rename_i h
    exact h
  · unfold has
    rw [List.contains_append, List.contains_cons, BEq.rfl, Bool.true_or, Bool.or_true]

/-- A warning counts once if it is new, and not otherwise. -/
theorem count_warn (w : Warnings) (component message : String) :
    (w.warn component message).count = if w.has component message then w.count else w.count + 1 := by
  unfold warn count
  split
  · rfl
  · rw [List.length_append, List.length_singleton]

end Warnings

end Hypertext
