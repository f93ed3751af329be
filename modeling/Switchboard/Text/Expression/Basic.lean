/-!
Regular expressions as they are written.

An `Expression` keeps of its text what matters for whether it has a meaning: which
characters stand for themselves, how sets, groups and repetitions are nested, what the
groups are called and where the modes of reading change. What is repeated how often is
left out.

`depth` counts how deep the parts are nested, and `names` lists what the groups are
called, in their order.
-/

namespace Switchboard.Text

namespace Expression

/-! ### Parts of an expression -/

/-- A character that stands for itself. -/
structure Literal where
  char : Char
  /-- It is written as a byte, by two hexadecimal digits. -/
  isByte : Bool
deriving DecidableEq, Repr

/-- What is not made of other parts. -/
inductive Atom where
  | literal (l : Literal)
  /-- One of the digits, the spaces or the characters of words, or one that is none of them. -/
  | shorthand (negated : Bool)
  /-- One that does not end a line. -/
  | anything
  /-- The beginning or the end of a line or of the text. -/
  | place
  /-- An end of a word, or a place that is none. -/
  | boundary
deriving DecidableEq, Repr

/-- What is written between the brackets of a set. -/
inductive Members where
  | empty
  | literal (l : Literal)
  | range (low high : Literal)
  | shorthand (negated : Bool)
  /-- A set of ASCII characters by its name. -/
  | named (negated : Bool)
  /-- A set with brackets of its own. -/
  | bracketed (negated : Bool) (inner : Members)
  /-- Two or more, one after another. -/
  | union (parts : List Members)
  /-- The common members of two sets, or what they do not share. -/
  | combined (left right : Members)

/-- What a list of letters says of the modes: each is switched on or off, or left as it is. -/
structure Change where
  /-- The case of letters does not count. -/
  caseless : Option Bool
  /-- Spaces and comments are passed over. -/
  spaced : Option Bool
  /-- Characters are taken byte by byte. -/
  bytes : Option Bool
deriving DecidableEq, Repr

/-- Leave all modes as they are. -/
def Change.none : Change := ⟨.none, .none, .none⟩

/-- What a group begins with. -/
inductive Heading where
  | named (name : List Char)
  /-- Modes that hold inside the group. -/
  | modes (change : Change)
deriving DecidableEq, Repr

/-- What a group changes inside it. -/
def Heading.change : Heading → Change
  | named _ => .none
  | modes change => change

/-- The name of a group, if it has one. -/
def Heading.name? : Heading → Option (List Char)
  | named name => some name
  | modes _ => none

end Expression

/-- A regular expression. -/
inductive Expression where
  | empty
  | atom (a : Expression.Atom)
  | set (members : Expression.Members)
  /-- Modes that hold from here to the end of the innermost group. -/
  | change (c : Expression.Change)
  | repeated (inner : Expression)
  | group (heading : Expression.Heading) (inner : Expression)
  /-- Two or more, one after another. -/
  | sequence (parts : List Expression)
  /-- Two or more, of which one applies. -/
  | choice (branches : List Expression)

namespace Expression

/-- Members one after another. -/
def Members.ofList : List Members → Members
  | [] => .empty
  | [part] => part
  | parts => .union parts

/-- Parts one after another. -/
def ofParts : List Expression → Expression
  | [] => empty
  | [part] => part
  | parts => sequence parts

/-- One of several branches. -/
def ofBranches : List Expression → Expression
  | [] => empty
  | [branch] => branch
  | branches => choice branches

/-! ### Nesting -/

mutual

/-- How deep the parts of a set are nested. -/
def Members.depth : Members → Nat
  | .empty | .literal _ | .range _ _ | .shorthand _ | .named _ => 0
  | .bracketed _ inner => inner.depth + 1
  | .union parts => depths parts + 1
  | .combined left right => max left.depth right.depth + 1

/-- The greatest depth of a list. -/
def Members.depths : List Members → Nat
  | [] => 0
  | part :: parts => max part.depth (depths parts)

end

mutual

/-- How deep the parts of an expression are nested. -/
def depth : Expression → Nat
  | empty | atom _ | change _ => 0
  | set members => members.depth
  | repeated inner => inner.depth + 1
  | group _ inner => inner.depth + 1
  | sequence parts => depths parts + 1
  | choice branches => depths branches + 1

/-- The greatest depth of a list. -/
def depths : List Expression → Nat
  | [] => 0
  | part :: parts => max part.depth (depths parts)

end

/-! ### Names of groups -/

mutual

/-- What the groups are called, from left to right. -/
def names : Expression → List (List Char)
  | empty | atom _ | set _ | change _ => []
  | repeated inner => inner.names
  | group heading inner => heading.name?.toList ++ inner.names
  | sequence parts => namesOfAll parts
  | choice branches => namesOfAll branches

/-- What the groups of a list are called. -/
def namesOfAll : List Expression → List (List Char)
  | [] => []
  | part :: parts => part.names ++ namesOfAll parts

end

end Expression

end Switchboard.Text
