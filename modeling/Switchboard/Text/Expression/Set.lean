import Switchboard.Text.Expression.Escape

/-!
Sets of characters in brackets.

A set holds characters, ranges and other sets; what stands on the two sides of `&&`, `--`
or `~~` is combined, from left to right. `readSet` reads one from behind its bracket. The
sets that are open at a place, innermost first, are kept as a list of `Bracket`s.
-/

namespace Switchboard.Text.Expression

/-! ### Members -/

/-- A character, escaped or not, or a set that an escape stands for. -/
def readMember (spaced : Bool) : List Char → Option (Atom × List Char)
  | '\\' :: rest => readEscape spaced rest
  | c :: rest => some (.literal ⟨c, false⟩, rest)
  | [] => none

/-- An atom as the member of a set: a place in the text is none. -/
def Members.ofAtom? : Atom → Option Members
  | .literal l => some (.literal l)
  | .shorthand negated => some (.shorthand negated)
  | .anything | .place | .boundary => none

/-- The sign that counts after a dash. Spaces are passed over, but of a comment no more than its
number sign. -/
def afterDash (spaced : Bool) (cs : List Char) : Option Char :=
  if spaced then
    match cs.dropWhile isSpace with
    | '#' :: rest => (rest.dropWhile isSpace).head?
    | rest => rest.head?
  else cs.head?

/-- A dash begins the second half of a range, unless the set ends or is combined after it. -/
def continuesRange (spaced : Bool) : List Char → Bool
  | '-' :: rest => afterDash spaced rest ≠ some ']' && afterDash spaced rest ≠ some '-'
  | _ => false

/-- A range of characters with its ends in order. -/
def Members.range? : Atom → Atom → Option Members
  | .literal low, .literal high => if low.char ≤ high.char then some (.range low high) else none
  | _, _ => none

/-- A member or a range of them, and what follows. -/
def readRange (spaced : Bool) (cs : List Char) : Option (Members × List Char) := do
  let (first, rest) ← readMember spaced cs
  let rest := skip spaced rest
  if continuesRange spaced rest then
    let (second, rest) ← readMember spaced (skip spaced (rest.drop 1))
    let range ← Members.range? first second
    return (range, rest)
  else
    let member ← Members.ofAtom? first
    return (member, rest)

/-- The sets that have a name. -/
def setNames : List String :=
  ["alnum", "alpha", "ascii", "blank", "cntrl", "digit", "graph", "lower", "print", "punct",
    "space", "upper", "word", "xdigit"]

/-- A set by its name from behind a bracket, as in `[:alpha:]`, and what follows. -/
def readNamed : List Char → Option (Members × List Char)
  | ':' :: cs =>
    let (negated, cs) := match cs with
      | '^' :: rest => (true, rest)
      | _ => (false, cs)
    match cs.dropWhile (· ≠ ':') with
    | ':' :: ']' :: rest =>
      if String.ofList (cs.takeWhile (· ≠ ':')) ∈ setNames then some (.named negated, rest)
      else none
    | _ => none
  | _ => none

/-! ### Open sets -/

/-- A set that is not closed yet. -/
structure Bracket where
  negated : Bool
  /-- What the members are to be combined with. -/
  left : Option Members
  /-- The members so far, the last one first. -/
  parts : List Members

namespace Bracket

/-- One more member. -/
def add (b : Bracket) (member : Members) : Bracket :=
  { b with parts := member :: b.parts }

/-- All that stands in the brackets. -/
def members (b : Bracket) : Members :=
  match b.left with
  | some left => .combined left (.ofList b.parts.reverse)
  | none => .ofList b.parts.reverse

/-- The members so far are to be combined with those that follow. -/
def combine (b : Bracket) : Bracket :=
  { b with left := some b.members, parts := [] }

/-- The set when its bracket is closed. -/
def close (b : Bracket) : Members := .bracketed b.negated b.members

end Bracket

/-- Dashes at the beginning of a set, which stand for themselves, and what follows. -/
def readDashes (spaced : Bool) : Nat → List Char → List Members × List Char
  | steps + 1, '-' :: rest =>
    let (dashes, rest) := readDashes spaced steps (skip spaced rest)
    (.literal ⟨'-', false⟩ :: dashes, rest)
  | _, cs => ([], cs)

/-- A set with what stands for itself at its beginning, dashes or else a closing bracket, and what
follows. -/
def openBracket (spaced : Bool) (cs : List Char) : Bracket × List Char :=
  let (negated, cs) := match skip spaced cs with
    | '^' :: rest => (true, skip spaced rest)
    | cs => (false, cs)
  match cs with
  | ']' :: rest => (⟨negated, none, [.literal ⟨']', false⟩]⟩, rest)
  | _ =>
    let (dashes, rest) := readDashes spaced cs.length cs
    (⟨negated, none, dashes⟩, rest)

/-! ### Whole sets -/

/-- A set up to its closing bracket and what follows, from inside brackets of which the outer ones
are listed, in a bounded number of steps. -/
def readMembers (spaced : Bool) :
    Nat → Bracket → List Bracket → List Char → Option (Members × List Char)
  | 0, _, _, _ => none
  | steps + 1, b, outer, cs =>
    match skip spaced cs with
    | '[' :: rest =>
      match readNamed rest with
      | some (member, rest) => readMembers spaced steps (b.add member) outer rest
      | none =>
        let (inner, rest) := openBracket spaced rest
        readMembers spaced steps inner (b :: outer) rest
    | ']' :: rest =>
      match outer with
      | before :: outer => readMembers spaced steps (before.add b.close) outer rest
      | [] => some (b.close, rest)
    | '&' :: '&' :: rest | '-' :: '-' :: rest | '~' :: '~' :: rest =>
      readMembers spaced steps b.combine outer rest
    | cs =>
      (readRange spaced cs).bind fun (member, rest) =>
        readMembers spaced steps (b.add member) outer rest

/-- A set from behind its opening bracket, and what follows. -/
def readSet (spaced : Bool) (cs : List Char) : Option (Members × List Char) :=
  let (b, rest) := openBracket spaced cs
  readMembers spaced (cs.length + 1) b [] rest

end Switchboard.Text.Expression
