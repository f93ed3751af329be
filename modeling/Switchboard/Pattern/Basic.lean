import Switchboard.Outline
import Switchboard.Pattern.Finding
import Switchboard.Roster
import Switchboard.Run

/-!
Patterns and tables of patterns.

A pattern looks at an input and may extract a value from it. It can be declared
by a test that extracts the input itself (`Pattern.predicate`), by an extracting
function (`Pattern.extracting`), or by a decoder whose outcome is read as an
option (`Pattern.decoding`, `Pattern.decodingWith`). All that is kept is the
extraction and the form of the declaration. In a table the order of the names is the
order of precedence.
-/

namespace Switchboard

/-- How a pattern was declared. -/
inductive PatternForm where
  | predicate
  | extract
  | decode
deriving DecidableEq, Repr

/-- The form as it is shown. -/
def PatternForm.name : PatternForm → String
  | predicate => "Predicate"
  | extract => "Extract"
  | decode => "Decode"

def PatternForm.outline (form : PatternForm) : Outline :=
  .leaf form.name

/-- Members of `D` decode inputs; an outcome of type `F` holds the decoded value or none. -/
class Decoder (D : Type) (S F : outParam Type) where
  decode : D → S → Run F

/-- A test over inputs of type `S` that extracts a value of type `P` where it succeeds. -/
structure Pattern (S P : Type) where
  form : PatternForm
  extract : S → Run (Option P)

namespace Pattern

variable {S P D F : Type}

/-- Succeeds where the test holds, and extracts the input, converted. -/
def predicate (convert : S → P) (test : S → Run Bool) : Pattern S P where
  form := .predicate
  extract input := do
    if ← test input then return some (convert input) else return none

def extracting (extract : S → Run (Option P)) : Pattern S P where
  form := .extract
  extract := extract

/-- Extracts what a function finds, whatever kind of outcome it answers with. -/
def decodingWith [OptionLike F P] (decode : S → Run F) : Pattern S P where
  form := .decode
  extract input := return OptionLike.toOption (← decode input)

/-- Extracts what the decoder finds. -/
def decoding [Decoder D S F] [OptionLike F P] (decoder : D) : Pattern S P :=
  decodingWith (Decoder.decode decoder)

def outline (pattern : Pattern S P) : Outline :=
  .partialStruct "Pattern" [("kind", pattern.form.outline)]

end Pattern

/-! ### Tables -/

/-- Patterns by name, in order of precedence. -/
abbrev Patterns (S P : Type) := Roster (Pattern S P)

def Patterns.outline {S P : Type} (table : Patterns S P) : Outline :=
  .map (table.entries.map fun entry => (entry.1, entry.2.form.outline))

/-- Result functions by the name of the pattern whose values they take. -/
abbrev Results (P R : Type) := Roster (P → Run R)

def Results.outline {P R : Type} (results : Results P R) : Outline :=
  .names results.names

end Switchboard
