import Switchboard.Decimal.Digits
import Switchboard.Script.Condition

/-!
Extractions written as data.

An extraction takes a value and gives a value or nothing, or panics. Where an
operation does not fit the type of its argument it gives nothing.
-/

namespace Switchboard

/-- An expression for what is extracted from a value. -/
inductive Extraction where
  /-- The argument itself. -/
  | same
  | nothing
  | const (value : Value)
  /-- The extraction where the condition holds. -/
  | guarded (condition : Condition) (extraction : Extraction)
  /-- What follows the beginning in a string that has it. -/
  | strip (beginning : String)
  /-- The integer that a string spells. -/
  | parseInt
  /-- An integer increased by a number. -/
  | add (n : Int)
  /-- The text of the argument, as a string. -/
  | display
  /-- The second extraction on the value of the first. -/
  | andThen (first second : Extraction)
  /-- The first extraction of the list that gives a value. -/
  | firstOf (extractions : List Extraction)
  | panic (text : String)

/-! ### Integers of 64 bits -/

/-- The number, if it has 64 bits. -/
def int64? (n : Int) : Option Int64 :=
  if Int64.minValue.toInt ≤ n ∧ n ≤ Int64.maxValue.toInt then some (Int64.ofInt n) else none

/-! ### Evaluation -/

namespace Extraction

mutual

/-- The value extracted, or nothing. -/
def eval : Extraction → Value → Run (Option Value)
  | .same, v => return some v
  | .nothing, _ => return none
  | .const value, _ => return some value
  | .guarded condition extraction, v => do
    if ← condition.eval v then extraction.eval v else return none
  | .strip beginning, v => return (v.str?.bind (stripBeginning beginning)).map Value.str
  | .parseInt, v =>
    return (v.str?.bind fun s => (intOfNumeral? s.toList).bind int64?).map Value.int
  | .add n, v => return (v.int?.bind fun m => int64? (m.toInt + n)).map Value.int
  | .display, v => return some (.str v.text)
  | .andThen first second, v => do
    match ← first.eval v with
    | some found => second.eval found
    | none => return none
  | .firstOf extractions, v => evalFirst extractions v
  | .panic text, _ => Run.panic text

/-- The value of the first extraction that gives one. -/
def evalFirst : List Extraction → Value → Run (Option Value)
  | [], _ => return none
  | extraction :: rest, v => do
    match ← extraction.eval v with
    | some found => return some found
    | none => evalFirst rest v

end

end Extraction

end Switchboard
