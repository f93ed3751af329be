import Switchboard.Text.Expression.Basic
import Switchboard.Text.Space

/-!
Spaces, comments and escapes inside regular expressions.

In the mode that passes over spaces, `skip` drops what does not count: white space, and
comments, which run from a number sign to the end of their line. `readEscape` reads what
follows a backslash. A code point is written by two, four or eight hexadecimal digits,
between which spaces may stand in that mode; no space may stand behind the backslash.
-/

namespace Switchboard.Text.Expression

/-! ### Spaces and comments -/

/-- What follows spaces and comments, from inside a comment or not. -/
def skipFrom : Bool → List Char → List Char
  | _, [] => []
  | true, c :: rest => skipFrom (c ≠ '\n') rest
  | false, c :: rest =>
    if isSpace c then skipFrom false rest
    else if c = '#' then skipFrom true rest
    else c :: rest

/-- What follows spaces and comments, where they are passed over. -/
def skip (spaced : Bool) (cs : List Char) : List Char :=
  if spaced then skipFrom false cs else cs

/-! ### Code points -/

/-- The value of a hexadecimal digit in either case. -/
def hexValue? (c : Char) : Option Nat :=
  if c.isDigit then some (c.toNat - '0'.toNat)
  else if 'a' ≤ c ∧ c ≤ 'f' then some (c.toNat - 'a'.toNat + 10)
  else if 'A' ≤ c ∧ c ≤ 'F' then some (c.toNat - 'A'.toNat + 10)
  else none

/-- A number continued by so many hexadecimal digits, and what follows. -/
def readDigits (spaced : Bool) : Nat → Nat → List Char → Option (Nat × List Char)
  | 0, code, cs => some (code, cs)
  | digits + 1, code, cs =>
    match skip spaced cs with
    | c :: rest => (hexValue? c).bind fun value => readDigits spaced digits (16 * code + value) rest
    | [] => none

/-- The character whose code point so many hexadecimal digits spell, and what follows. -/
def readCodePoint (spaced : Bool) (digits : Nat) (cs : List Char) :
    Option (Atom × List Char) := do
  let (code, rest) ← readDigits spaced digits 0 cs
  if code.isValidChar then some (.literal ⟨Char.ofNat code, digits == 2⟩, rest) else none

/-! ### Escapes -/

/-- What a letter or a sign stands for behind a backslash. Letters and digits without a meaning of
their own are refused; other ASCII characters stand for themselves. -/
def escaped? : Char → Option Atom
  | 'a' => some (.literal ⟨'\x07', false⟩)
  | 'f' => some (.literal ⟨'\x0c', false⟩)
  | 'n' => some (.literal ⟨'\n', false⟩)
  | 'r' => some (.literal ⟨'\r', false⟩)
  | 't' => some (.literal ⟨'\t', false⟩)
  | 'v' => some (.literal ⟨'\x0b', false⟩)
  | 'd' | 's' | 'w' => some (.shorthand false)
  | 'D' | 'S' | 'W' => some (.shorthand true)
  | 'A' | 'z' => some .place
  | 'b' | 'B' | '<' | '>' => some .boundary
  | c => if c.toNat < 0x80 ∧ ¬ c.isAlphanum then some (.literal ⟨c, false⟩) else none

/-- What the text after a backslash begins with, and what follows. -/
def readEscape (spaced : Bool) : List Char → Option (Atom × List Char)
  | 'x' :: rest => readCodePoint spaced 2 rest
  | 'u' :: rest => readCodePoint spaced 4 rest
  | 'U' :: rest => readCodePoint spaced 8 rest
  | c :: rest => (escaped? c).map (·, rest)
  | [] => none

end Switchboard.Text.Expression
