import Hypertext.Sink.Basic

/-!
# Pieces

`Pieces` is the sink that records each text it is given as a piece of its own. It may have room for a
set number of pieces only; then every further text is refused.
-/

namespace Hypertext

/-- A record of texts. -/
structure Pieces where
  /-- The number of pieces that there is room for, if it is bounded. -/
  room : Option Nat := none
  /-- The texts taken, newest first. -/
  taken : List String := []
deriving DecidableEq, Repr

namespace Pieces

/-- The texts taken, in the order in which they came. -/
def pieces (s : Pieces) : List String :=
  s.taken.reverse

/-- The failure of a record without room. -/
def closed : IoError := ⟨.brokenPipe, "closed"⟩

/-- Records a text if there is room for it. -/
def append (text : String) : Attempt IoError Pieces := fun s =>
  match s.room with
  | some 0 => (s, .error closed)
  | some (n + 1) => ({ room := some n, taken := text :: s.taken }, .ok ())
  | none => ({ s with taken := text :: s.taken }, .ok ())

end Pieces

instance : Sink Pieces where
  append := Pieces.append
  received s := s.pieces.flatMap Text.utf8

end Hypertext
