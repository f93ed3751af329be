import Switchboard.Text.Expression.Basic

/-!
The modes in which a regular expression is taken.

No tables of characters are at hand. So what would need them has no meaning while
characters are taken whole: a letter whose case does not count, the sets of digits,
spaces and words, and the ends of words. Where characters are taken byte by byte all of
these mean what they mean in ASCII; but then nothing may match a byte that is a part of a
character only, so that no set may hold more than ASCII.

`Modes.after` gives the modes that hold after an expression, if each of its parts has a
meaning where it stands.
-/

namespace Switchboard.Text.Expression

/-- How an expression is taken. -/
structure Modes where
  /-- The case of letters does not count. -/
  caseless : Bool
  /-- Characters are taken byte by byte. -/
  bytes : Bool
deriving DecidableEq, Repr

/-- The character is in ASCII. -/
def Literal.isAscii (l : Literal) : Bool := l.char.toNat < 0x80

namespace Modes

/-- The modes at the beginning of every expression. -/
def initial : Modes := ⟨false, false⟩

/-- The modes after a change. -/
def change (m : Modes) (c : Change) : Modes :=
  ⟨c.caseless.getD m.caseless, c.bytes.getD m.bytes⟩

/-- The atom has a meaning. -/
def allows (m : Modes) : Atom → Bool
  | .literal l => if m.bytes then !l.isByte || l.isAscii else !m.caseless
  | .shorthand negated => m.bytes && !negated
  | .anything => !m.bytes
  | .place => true
  | .boundary => m.bytes

mutual

/-- The members of a set have a meaning. -/
def allowsMembers (m : Modes) : Members → Bool
  | .empty => true
  | .literal l => if m.bytes then l.isAscii else !m.caseless
  | .range low high => if m.bytes then low.isAscii && high.isAscii else !m.caseless
  | .shorthand negated => m.bytes && !negated
  | .named negated => if m.bytes then !negated else !m.caseless
  | .bracketed negated inner => !(m.bytes && negated) && m.allowsMembers inner
  | .union parts => m.allowsAll parts
  | .combined left right => m.allowsMembers left && m.allowsMembers right

/-- All members of a list have a meaning. -/
def allowsAll (m : Modes) : List Members → Bool
  | [] => true
  | part :: parts => m.allowsMembers part && m.allowsAll parts

end

mutual

/-- The modes that hold after an expression, if it has a meaning. -/
def after (m : Modes) : Expression → Option Modes
  | .empty => some m
  | .atom a => if m.allows a then some m else none
  | .set members => if m.allowsMembers members then some m else none
  | .change c => some (m.change c)
  | .repeated inner => m.after inner
  | .group heading inner => ((m.change heading.change).after inner).map fun _ => m
  | .sequence parts => m.afterAll parts
  | .choice branches => m.afterAll branches

/-- The modes that hold after all expressions of a list. -/
def afterAll (m : Modes) : List Expression → Option Modes
  | [] => some m
  | part :: parts => (m.after part).bind fun m => m.afterAll parts

end

end Modes

end Switchboard.Text.Expression
