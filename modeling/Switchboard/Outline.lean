import Switchboard.Text.Quoted

/-!
Outlines: the tree behind a text that shows how a value is made.

A leaf is a text of its own; a node has a name, a way to enclose its entries and
the entries, each with an optional label. Every outline has two texts.
`Outline.inline` puts all of it on one line. `Outline.indented` puts each entry on a
line of its own, four columns further in than its node and followed by a comma.
-/

namespace Switchboard

/-- How a node encloses its entries. -/
inductive Enclosure where
  /-- Labelled fields, all of them shown. -/
  | fields
  /-- Labelled fields, with more that are not shown. -/
  | someFields
  /-- Positional parts. -/
  | parts
  /-- The members of a list. -/
  | members
  /-- The associations of a map. -/
  | associations
deriving DecidableEq, Repr

/-- How a value is made, apart from the layout of the text that shows it. -/
inductive Outline where
  | leaf (content : String)
  | node (name : String) (enclosure : Enclosure) (entries : List (Option String × Outline))

namespace Enclosure

/-- Text before the first entry on one line. -/
def opening : Enclosure → String
  | .fields | .someFields => " \x7b "
  | .parts => "("
  | .members => "["
  | .associations => "\x7b"

/-- Text after the last entry on one line. -/
def closing : Enclosure → String
  | .fields | .someFields => " \x7d"
  | .parts => ")"
  | .members => "]"
  | .associations => "\x7d"

/-- Text at the end of the line that precedes the entries' own lines. -/
def openingLine : Enclosure → String
  | .fields | .someFields => " \x7b"
  | other => other.opening

/-- Text on the line that follows the entries' own lines. -/
def closingLine : Enclosure → String
  | .fields | .someFields => "\x7d"
  | other => other.closing

/-- The sign for fields that are not shown, where there are some. -/
def ellipsis : Enclosure → List String
  | .someFields => [".."]
  | _ => []

/-- The text of a node without entries, in both layouts. -/
def vacant : Enclosure → String
  | .fields | .parts => ""
  | .someFields => " \x7b .. \x7d"
  | .members => "[]"
  | .associations => "\x7b\x7d"

end Enclosure

namespace Outline

/-! ### Building outlines -/

/-- A string in quotes. -/
def text (s : String) : Outline :=
  .leaf (Text.quoted s)

/-- A structure with its fields. -/
def struct (name : String) (fields : List (String × Outline)) : Outline :=
  .node name .fields (fields.map fun field => (some field.1, field.2))

/-- A structure of which some fields are shown. -/
def partialStruct (name : String) (fields : List (String × Outline)) : Outline :=
  .node name .someFields (fields.map fun field => (some field.1, field.2))

/-- A constructor applied to positional parts; a plain tuple has the empty name. -/
def tuple (name : String) (parts : List Outline) : Outline :=
  .node name .parts (parts.map (none, ·))

/-- A list of any members. -/
def list (members : List Outline) : Outline :=
  .node "" .members (members.map (none, ·))

/-- A list of strings in quotes. -/
def names (members : List String) : Outline :=
  list (members.map text)

/-- A map with strings, in quotes, for keys. -/
def map (associations : List (String × Outline)) : Outline :=
  .node "" .associations (associations.map fun entry => (some (Text.quoted entry.1), entry.2))

/-! ### The two texts -/

/-- A label with the colon that follows it. -/
def labelText : Option String → String
  | none => ""
  | some label => label ++ ": "

/-- Four columns for each level. -/
def indent (depth : Nat) : String :=
  String.ofList (List.replicate (4 * depth) ' ')

mutual

/-- The text on one line. -/
def inline : Outline → String
  | .leaf content => content
  | .node name enclosure [] => name ++ enclosure.vacant
  | .node name enclosure (entry :: entries) =>
    name ++ enclosure.opening
      ++ ", ".intercalate (inlineEntries (entry :: entries) ++ enclosure.ellipsis)
      ++ enclosure.closing

/-- The entries' texts on one line, each behind its label. -/
def inlineEntries : List (Option String × Outline) → List String
  | [] => []
  | (label, item) :: entries => (labelText label ++ item.inline) :: inlineEntries entries

end

mutual

/-- The text with each entry on a line of its own. The first line is not indented, since it
continues a line at the given depth. -/
def indentedAt (depth : Nat) : Outline → String
  | .leaf content => content
  | .node name enclosure [] => name ++ enclosure.vacant
  | .node name enclosure (entry :: entries) =>
    name ++ enclosure.openingLine ++ "\n"
      ++ indentedEntries depth (entry :: entries)
      ++ String.join (enclosure.ellipsis.map fun sign => indent (depth + 1) ++ sign ++ "\n")
      ++ indent depth ++ enclosure.closingLine

/-- The lines of the entries of a node at the given depth. -/
def indentedEntries (depth : Nat) : List (Option String × Outline) → String
  | [] => ""
  | (label, item) :: entries =>
    indent (depth + 1) ++ labelText label ++ item.indentedAt (depth + 1) ++ ",\n"
      ++ indentedEntries depth entries

end

/-- The text with each entry on a line of its own. -/
def indented (outline : Outline) : String :=
  outline.indentedAt 0

@[simp] theorem inline_leaf (content : String) : (leaf content).inline = content := by
  rw [inline]

@[simp] theorem indented_leaf (content : String) : (leaf content).indented = content := by
  rw [indented, indentedAt]

end Outline

end Switchboard
