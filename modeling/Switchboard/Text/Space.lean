/-!
Space characters and texts without them at the ends.

`isSpace` is the property White_Space; it holds of every character that
`Char.isWhitespace` accepts (`isSpace_of_isWhitespace`).
-/

namespace Switchboard.Text

/-- The character is white space. -/
def isSpace (c : Char) : Bool :=
  let code := c.toNat
  0x09 ≤ code && code ≤ 0x0d || code == 0x20 || code == 0x85 || code == 0xa0 || code == 0x1680
    || 0x2000 ≤ code && code ≤ 0x200a || code == 0x2028 || code == 0x2029 || code == 0x202f
    || code == 0x205f || code == 0x3000

theorem isSpace_of_isWhitespace {c : Char} (white : c.isWhitespace) : isSpace c := by
  simp only [Char.isWhitespace, Bool.or_eq_true, decide_eq_true_eq] at white
  rcases white with ((rfl | rfl) | rfl) | rfl <;> rfl

/-- The text without the spaces at its beginning and its end. -/
def trim (cs : List Char) : List Char :=
  ((cs.dropWhile isSpace).reverse.dropWhile isSpace).reverse

end Switchboard.Text
