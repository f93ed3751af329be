/-!
Properties of characters as lists of ranges of code points.
-/

namespace Switchboard.Text

/-- Some range of the list, both ends included, holds the code point. -/
def covers (ranges : List (Nat × Nat)) (code : Nat) : Bool :=
  ranges.any fun range => range.1 ≤ code && code ≤ range.2

end Switchboard.Text
