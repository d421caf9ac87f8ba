/-!
# Sets of code points

A set of code points is given by its boundaries: in ascending order, the code points at which it
begins and ends in turn.

* `between` tells whether a code point lies in the set.
-/

namespace Hypertext.Text

/-- Whether `n` lies in the set with these boundaries: at or after one at which the set begins, and
before the next one. -/
def between : List Nat → Nat → Bool
  | [], _ => false
  | b :: rest, n => if n < b then false else !between rest n

end Hypertext.Text
