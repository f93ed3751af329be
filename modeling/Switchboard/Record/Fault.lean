import Switchboard.Outline

/-!
Why no record could be built from a shape.
-/

namespace Switchboard

/-- A fault of a shape or of the arguments to it. -/
inductive RecordFault where
  | untagged
  | missing (tag field : String)
  | undeclared (tag field : String)
  | redeclared (tag field : String)
deriving DecidableEq, Repr

namespace RecordFault

def message : RecordFault → String
  | untagged => "record shape has an empty tag"
  | missing tag field => "`" ++ tag ++ "` is missing required field `" ++ field ++ "`"
  | undeclared tag field => "`" ++ tag ++ "` has no field named `" ++ field ++ "`"
  | redeclared tag field => "`" ++ tag ++ "` declares field `" ++ field ++ "` more than once"

/-- A fault with the tag and the field that it names. -/
def fieldOutline (name tag field : String) : Outline :=
  .struct name [("tag", .text tag), ("field", .text field)]

def outline : RecordFault → Outline
  | untagged => .leaf "EmptyTag"
  | missing tag field => fieldOutline "MissingField" tag field
  | undeclared tag field => fieldOutline "UnknownField" tag field
  | redeclared tag field => fieldOutline "DuplicateField" tag field

end RecordFault

end Switchboard
