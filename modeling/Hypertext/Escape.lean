import Hypertext.Sink.Emission

/-!
# Escaping

* `entity?` gives the five entities of markup.
* `pieces` splits a text into plain runs and entities, a run before and after every entity.
* An `EscapeHandler` turns a text into what is emitted for it, and only gives text to a sink; `html` emits the
  pieces.
* An `EscapePolicy` says whether a write passes through the handler.
-/

namespace Hypertext

/-- Whether a write passes through the escape handler. -/
inductive EscapePolicy where
  | escapeChars
  | noEscape
deriving DecidableEq, Repr, Inhabited

namespace EscapePolicy

/-- The policy that escapes exactly if told to. -/
def ofBool (escape : Bool) : EscapePolicy :=
  if escape then .escapeChars else .noEscape

/-- Whether the policy escapes. -/
def escapes : EscapePolicy → Bool
  | .escapeChars => true
  | .noEscape => false

end EscapePolicy

/-- The entity of a character that has a meaning in markup. -/
def entity? : Char → Option String
  | '&' => some "&amp;"
  | '<' => some "&lt;"
  | '>' => some "&gt;"
  | '"' => some "&quot;"
  | '\'' => some "&#39;"
  | _ => none

/-- The pieces with a character put in front of the first run. -/
def extendRun (c : Char) : List (List Char) → List (List Char)
  | [] => [[c]]
  | run :: rest => (c :: run) :: rest

/-- Alternating runs and entities: a possibly empty run, then an entity and a run for each special
character. -/
def pieceChars : List Char → List (List Char)
  | [] => [[]]
  | c :: cs =>
    match entity? c with
    | some entity => [] :: entity.toList :: pieceChars cs
    | none => extendRun c (pieceChars cs)

/-- The runs and entities of a text. -/
def pieces (text : String) : List String :=
  (pieceChars text.toList).map String.ofList

/-- The text with its special characters replaced by entities. -/
def escapeHtml (text : String) : String :=
  String.ofList (pieceChars text.toList).flatten

/-- What texts are escaped with. -/
structure EscapeHandler where
  /-- What is emitted for a text that is to be escaped. -/
  emission : String → Emission IoError
  /-- It writes the text escaped and does no more. -/
  appends : ∀ text, (emission text).Appends

instance : CoeFun EscapeHandler fun _ => String → Emission IoError := ⟨EscapeHandler.emission⟩

namespace EscapeHandler

/-- The handler that emits runs and entities piece by piece. -/
def html : EscapeHandler where
  emission text := Emission.ofPieces id (pieces text)
  appends text := Emission.appends_ofPieces id (pieces text)

/-- The handler that replaces only the opening angle bracket and emits the whole text at once. -/
def angle : EscapeHandler where
  emission text :=
    Emission.put id (String.ofList (text.toList.flatMap fun c => if c = '<' then "&lt;".toList else [c]))
  appends _ := Emission.appends_put id _

/-- The failure of a handler that refuses every text. -/
def refusal : IoError := ⟨.invalidData, "handler failed"⟩

/-- The handler that emits a bracket and then refuses the text. -/
def refusing : EscapeHandler where
  emission _ := (Emission.put id "[").andThen (.done (.error refusal))
  appends _ := (Emission.appends_put id "[").andThen trivial

end EscapeHandler

end Hypertext
