/-!
Names listed in a message: each between backticks, separated by a comma and a
space. Names stand as they are, so a list of names free of backticks can be
read back; the empty list leaves no text.
-/

namespace Switchboard.Text

/-- A name between backticks. -/
def ticked (name : String) : String :=
  "`" ++ name ++ "`"

/-- The names in order, each between backticks. -/
def listed (names : List String) : String :=
  ", ".intercalate (names.map ticked)

@[simp] theorem listed_nil : listed [] = "" := rfl

end Switchboard.Text
