import Switchboard.Text.Alphanumeric
import Switchboard.Text.Expression.Set

/-!
Reading regular expressions.

`readToken` reads what a text begins with: the beginning or the end of a group, a bar, a
repetition, or a part that stands alone. `Draft.step` adds a token to what has been read,
where the groups that are still open wait with what stands before them. `read` does both
up to the end of the text.

The text is cut out of a larger form whose marks are braces, so that nothing in braces
can be complete: a count of repetitions and a character by name are refused at their
opening brace.
-/

namespace Switchboard.Text.Expression

/-! ### Headings of groups -/

/-- A group may have the name. -/
def isGroupName : List Char → Bool
  | [] => false
  | c :: rest =>
    (c == '_' || isAlphabetic c)
      && rest.all fun c => c == '_' || c == '.' || c == '[' || c == ']' || isAlphanumeric c

/-- The letters of modes; those after a dash are switched off. -/
def isModes (letters : List Char) : Bool :=
  letters.all (fun c => c ∈ ['i', 'm', 's', 'u', 'U', 'R', 'x', '-'])
    && decide letters.Nodup && letters.getLast? != some '-'

/-- What letters of modes say of one of them. -/
def setting (letters : List Char) (letter : Char) : Option Bool :=
  if letter ∈ letters then some (letter ∈ letters.takeWhile (· ≠ '-')) else none

/-- What letters of modes say of each mode. Without the mode of its own, characters are taken
byte by byte. -/
def Change.ofLetters (letters : List Char) : Change :=
  ⟨setting letters 'i', setting letters 'x', (setting letters 'u').map (!·)⟩

/-! ### Tokens -/

/-- What an expression is written with, one after another. -/
inductive Token where
  | opening (heading : Heading)
  | closing
  | bar
  | repetition
  /-- A part that stands alone. -/
  | whole (part : Expression)

/-- The name of a group up to its closing mark, and what follows. -/
def readName (cs : List Char) : Option (Token × List Char) :=
  let name := cs.takeWhile (· ≠ '>')
  match cs.dropWhile (· ≠ '>') with
  | _ :: rest => if isGroupName name then some (.opening (.named name), rest) else none
  | [] => none

/-- Letters of modes, for a group or, without one, for what follows. -/
def readModes (cs : List Char) : Option (Token × List Char) :=
  let inModes := fun c => c ≠ ':' ∧ c ≠ ')'
  let letters := cs.takeWhile inModes
  if isModes letters then
    match cs.dropWhile inModes with
    | ':' :: rest => some (.opening (.modes (.ofLetters letters)), rest)
    | _ :: rest => if letters = [] then none else some (.whole (.change (.ofLetters letters)), rest)
    | [] => none
  else none

/-- What an opening parenthesis begins, and what follows. -/
def readOpening : List Char → Option (Token × List Char)
  | '?' :: 'P' :: '<' :: rest => readName rest
  | '?' :: '<' :: rest => readName rest
  | '?' :: rest => readModes rest
  | rest => some (.opening (.modes .none), rest)

/-- What a text begins with, and what follows. A repetition may be followed at once by the sign
that makes it match as little as possible. -/
def readToken (spaced : Bool) : List Char → Option (Token × List Char)
  | '(' :: rest => readOpening (skip spaced rest)
  | ')' :: rest => some (.closing, rest)
  | '|' :: rest => some (.bar, rest)
  | '*' :: '?' :: rest | '+' :: '?' :: rest | '?' :: '?' :: rest => some (.repetition, rest)
  | '*' :: rest | '+' :: rest | '?' :: rest => some (.repetition, rest)
  | '[' :: rest => (readSet spaced rest).map fun (members, rest) => (.whole (.set members), rest)
  | '\x7b' :: _ => none
  | '\\' :: rest => (readEscape spaced rest).map fun (a, rest) => (.whole (.atom a), rest)
  | '.' :: rest => some (.whole (.atom .anything), rest)
  | '^' :: rest | '$' :: rest => some (.whole (.atom .place), rest)
  | c :: rest => some (.whole (.atom (.literal ⟨c, false⟩)), rest)
  | [] => none

/-! ### Drafts -/

/-- The part of a group that has been read. -/
structure Draft where
  /-- Spaces and comments are passed over. -/
  spaced : Bool
  /-- The finished branches, the last one first. -/
  branches : List Expression
  /-- The parts of the last branch, the last one first. -/
  parts : List Expression

namespace Draft

/-- Nothing has been read. -/
def start (spaced : Bool) : Draft := ⟨spaced, [], []⟩

/-- One more part, which may change the modes of what follows. -/
def add (d : Draft) (part : Expression) : Draft :=
  let spaced := match part with
    | change c => c.spaced.getD d.spaced
    | _ => d.spaced
  { d with spaced := spaced, parts := part :: d.parts }

/-- A new branch begins. -/
def branch (d : Draft) : Draft :=
  { d with branches := ofParts d.parts.reverse :: d.branches, parts := [] }

/-- All that has been read. -/
def close (d : Draft) : Expression := ofBranches d.branch.branches.reverse

/-- The last part is repeated; a change of modes cannot be. -/
def repeatLast (d : Draft) : Option Draft :=
  match d.parts with
  | [] | change _ :: _ => none
  | part :: parts => some { d with parts := repeated part :: parts }

end Draft

/-- A draft inside groups that are still open, innermost first, each with the draft that it is to
be added to. -/
structure Reading where
  draft : Draft
  outer : List (Heading × Draft)

namespace Reading

/-- One more token. -/
def step (r : Reading) : Token → Option Reading
  | .opening heading =>
    some ⟨.start (heading.change.spaced.getD r.draft.spaced), (heading, r.draft) :: r.outer⟩
  | .closing =>
    match r.outer with
    | (heading, before) :: outer => some ⟨before.add (group heading r.draft.close), outer⟩
    | [] => none
  | .bar => some { r with draft := r.draft.branch }
  | .repetition => r.draft.repeatLast.map ({ r with draft := · })
  | .whole part => some { r with draft := r.draft.add part }

/-- The whole expression, if no group is open. -/
def finish (r : Reading) : Option Expression :=
  match r.outer with
  | [] => some r.draft.close
  | _ :: _ => none

/-- Reads up to the end of a text in a bounded number of steps. -/
def run : Nat → Reading → List Char → Option Expression
  | 0, _, _ => none
  | steps + 1, r, cs =>
    match skip r.draft.spaced cs with
    | [] => r.finish
    | cs => do
      let (token, rest) ← readToken r.draft.spaced cs
      let r ← r.step token
      run steps r rest

end Reading

/-- The expression that a text spells. -/
def read (cs : List Char) : Option Expression :=
  Reading.run (cs.length + 1) ⟨.start false, []⟩ cs

end Switchboard.Text.Expression
