import Hypertext.Resource.Error
import Hypertext.Sink.Basic

/-!
# Failures of a canvas

`CanvasError` lists what can stop writing markup, and `message` words it.
-/

namespace Hypertext

/-- Why a write to a canvas failed. -/
inductive CanvasError where
  /-- An element without a name. -/
  | nullTag
  /-- A close with nothing open. -/
  | emptyStack
  /-- Another element is open than the one to close. -/
  | unexpectedTag (expected found : String)
  /-- A skipped region left elements open. -/
  | unbalancedRegion (opened : Nat)
  /-- A text is to be escaped and there is no handler. -/
  | missingEscapeHandler
  | io (cause : IoError)
  | resource (cause : ResourceError)
deriving DecidableEq, Repr

/-- The wording of a canvas error. -/
def CanvasError.message : CanvasError → String
  | .nullTag => "null tag: cannot open an element without a name"
  | .emptyStack => "empty stack: no open element to close"
  | .unexpectedTag expected found =>
    "unexpected tag: expected " ++ expected ++ " but " ++ found ++ " is open"
  | .unbalancedRegion opened =>
    "unbalanced conditional region: " ++ Text.decimalNat opened
      ++ " element(s) still open at end_if"
  | .missingEscapeHandler => "no escape handler configured for this canvas"
  | .io cause => cause.message
  | .resource cause => cause.message

end Hypertext
