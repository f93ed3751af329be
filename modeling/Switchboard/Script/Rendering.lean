import Switchboard.Run
import Switchboard.Value

/-!
Result functions written as data: the text made from an extracted value.
-/

namespace Switchboard

/-- An expression for the text of a result. -/
inductive Rendering where
  | const (text : String)
  /-- The value's text. -/
  | display
  /-- The value's text between two others. -/
  | wrap (before after : String)
  /-- The name of the value's type. -/
  | typeName
  /-- The value's outline on one line. -/
  | outline
  | panic (text : String)
deriving DecidableEq, Repr

/-- The text for a value. -/
def Rendering.eval : Rendering → Value → Run String
  | .const text, _ => return text
  | .display, v => return v.text
  | .wrap before after, v => return before ++ v.text ++ after
  | .typeName, v => return v.typeName
  | .outline, v => return v.outline.inline
  | .panic text, _ => Run.panic text

end Switchboard
