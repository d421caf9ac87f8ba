import Hypertext.Escape
import Hypertext.Text.Quoted

/-!
# Settings of a canvas

`Config` holds the escape handler, the beginning of identifiers and whether obsolete elements are
warned of. `describe` writes the settings out, the text in quotes.
-/

namespace Hypertext

/-- The settings with which a canvas is made. -/
structure Config where
  /-- What texts are escaped with, if they can be escaped at all. -/
  handler : Option EscapeHandler := some EscapeHandler.html
  /-- What identifiers begin with. -/
  idStart : String := "id"
  /-- Whether opening an obsolete element is warned of. -/
  warnsOfObsolete : Bool := true

namespace Config

/-- The settings written out; of the handler only whether there is one. -/
def describe (config : Config) : String :=
  "CanvasConfig \x7b escaper: "
    ++ (if config.handler.isSome then "Some(\"<handler>\")" else "None")
    ++ ", id_prefix: " ++ Text.quote config.idStart
    ++ ", warn_on_deprecated: " ++ (if config.warnsOfObsolete then "true" else "false") ++ " \x7d"

end Config

end Hypertext
